import Mathlib
import WireContract.Proofs.BodyPaths
import WireContract.Proofs.Encoding
import WireContract.Proofs.NestedReading
import WireContract.Token.Token

namespace WireContract
namespace Token

open Json.Reader (isSpace)

theorem ranges_blank : Unicode.blank.ranges =
    [(9, 13), (32, 32), (133, 133), (160, 160), (0x1680, 0x1680), (0x2000, 0x200A), (0x2028, 0x2029),
      (0x202F, 0x202F), (0x205F, 0x205F), (0x3000, 0x3000)] := by
  cbv

theorem isBlank_iff_of_ascii {c : Char} (single : c.toNat < 128) :
    Text.isBlank c = true ↔ (9 ≤ c.toNat ∧ c.toNat ≤ 13) ∨ c.toNat = 32 := by
  rw [Text.isBlank, CodeSet.contains, CodeSet.containsCode, ranges_blank]
  simp only [List.any_cons, List.any_nil, Bool.or_false, Bool.or_eq_true, Bool.and_eq_true,
    decide_eq_true_eq]
  omega

theorem not_isBlank_of_visible {c : Char} (single : c.toNat < 128) (visible : 32 < c.toNat) :
    Text.isBlank c = false := by
  refine Bool.eq_false_iff.mpr fun blank => ?_
  have isBlank := (isBlank_iff_of_ascii single).mp blank
  omega

theorem isBlank_of_isSpace {c : Char} (space : isSpace c = true) : Text.isBlank c = true := by
  simp only [isSpace, Bool.or_eq_true, beq_iff_eq] at space
  rcases space with ((rfl | rfl) | rfl) | rfl
  · exact (isBlank_iff_of_ascii (by decide)).mpr (.inr rfl)
  · exact (isBlank_iff_of_ascii (by decide)).mpr (.inl (by decide))
  · exact (isBlank_iff_of_ascii (by decide)).mpr (.inl (by decide))
  · exact (isBlank_iff_of_ascii (by decide)).mpr (.inl (by decide))

inductive Spaced : List Char → List Char → Prop
  | done : Spaced [] []
  | keep (c : Char) {text spaced : List Char} (rest : Spaced text spaced) : Spaced (c :: text) (c :: spaced)
  | blank {c : Char} {text spaced : List Char} (isBlank : Text.isBlank c = true) (rest : Spaced text spaced) :
      Spaced text (c :: spaced)

theorem Spaced.refl : ∀ text, Spaced text text
  | [] => .done
  | c :: text => .keep c (refl text)

theorem Spaced.append {front back spaced : List Char} (isSpaced : Spaced back spaced) :
    Spaced (front ++ back) (front ++ spaced) := by
  induction front with
  | nil => exact isSpaced
  | cons c front ih => exact .keep c ih

theorem Spaced.filter_eq {text spaced : List Char} (isSpaced : Spaced text spaced)
    (noBlanks : ∀ c ∈ text, Text.isBlank c = false) : spaced.filter (fun c => !isBlank c) = text := by
  induction isSpaced with
  | done => rfl
  | keep c rest ih =>
    have isKept : (!isBlank c) = true := by rw [isBlank, noBlanks c (.head _)]; rfl
    rw [List.filter_cons_of_pos (p := fun c => !isBlank c) isKept,
      ih fun d member => noBlanks d (.tail _ member)]
  | blank blank rest ih =>
    rw [List.filter_cons_of_neg (by rw [isBlank, blank]; exact Bool.false_ne_true), ih noBlanks]

def dashed (text : List Char) : List Char := text.map fun c => if c = '/' then '-' else c

theorem symbols_of_spaced {bytes : List UInt8} {kept : List Char} {dropped : Nat}
    (padded : kept ++ List.replicate dropped '=' = Base64.encode bytes) {raw : String}
    (spaced : Spaced (dashed kept) raw.toList) : symbols raw = kept := by
  have plain : ∀ c ∈ kept, c ≠ '-' ∧ Text.isBlank c = false := by
    intro c member
    have among : c ∈ '=' :: Base64.alphabet := by
      have inEncoded : c ∈ Base64.encode bytes := padded ▸ List.mem_append_left _ member
      rcases List.mem_append.mp inEncoded with isSymbol | isPadding
      · exact .tail _ (Base64.symbolsOf_subset bytes isSymbol)
      · exact List.eq_of_mem_replicate isPadding ▸ .head _
    have each : ('=' :: Base64.alphabet).all (fun c => c.toNat < 128 ∧ 32 < c.toNat ∧ c ≠ '-') = true := by
      decide +kernel
    obtain ⟨single, visible, noDash⟩ := of_decide_eq_true (List.all_eq_true.mp each c among)
    exact ⟨noDash, not_isBlank_of_visible single visible⟩
  have dash : Text.isBlank '-' = false := not_isBlank_of_visible (by decide) (by decide)
  have noBlanks : ∀ c ∈ dashed kept, Text.isBlank c = false := by
    intro c member
    obtain ⟨d, isKept, rfl⟩ := List.mem_map.mp member
    split
    · exact dash
    · exact (plain d isKept).2
  rw [symbols, spaced.filter_eq noBlanks, dashed, List.map_map]
  refine (List.map_congr_left fun c member => ?_).trans (List.map_id kept)
  by_cases isSlash : c = '/'
  · simp [isSlash]
  · simp [isSlash, (plain c member).1]

theorem trimStart_blanks {blanks : List Char} (areBlank : ∀ c ∈ blanks, isSpace c = true) {c : Char}
    (isText : Text.isBlank c = false) (rest : List Char) :
    Text.trimStart (blanks ++ c :: rest) = c :: rest := by
  rw [Text.trimStart, List.dropWhile_append_of_pos fun d member => isBlank_of_isSpace (areBlank d member)]
  exact List.dropWhile_cons_of_neg (by rw [isText]; exact Bool.false_ne_true)

theorem trim_of_visible {text : List Char} (visible : ∀ c ∈ text, Text.isBlank c = false) :
    Text.trim text = text := by
  have start {text : List Char} (visible : ∀ c ∈ text, Text.isBlank c = false) : Text.trimStart text = text := by
    cases text with
    | nil => rfl
    | cons c rest =>
      exact List.dropWhile_cons_of_neg (by rw [visible c (.head _)]; exact Bool.false_ne_true)
  rw [Text.trim, start visible, start fun c member => visible c (List.mem_reverse.mp member),
    List.reverse_reverse]

theorem isBlank_mark {c : Char} (isMark : c ∈ ['"', ':', '\x7b', '\x7d']) : Text.isBlank c = false := by
  have each : ['"', ':', '\x7b', '\x7d'].all (fun c => c.toNat < 128 ∧ 32 < c.toNat) = true := by decide
  obtain ⟨single, visible⟩ := of_decide_eq_true (List.all_eq_true.mp each c isMark)
  exact not_isBlank_of_visible single visible

section Searches

variable {before after behind inner : List Char} (isBefore : ∀ c ∈ before, isSpace c = true)
  (isAfter : ∀ c ∈ after, isSpace c = true) (isBehind : ∀ c ∈ behind, isSpace c = true)

include isBefore isAfter in
theorem afterOpening?_memberText (rest : List Char) :
    afterOpening? ('\x7b' :: (before ++ '"' :: ("token".toList ++ '"' :: (after ++ ':' :: '\x7b' :: rest)))) =
      some rest := by
  have name : '"' :: ("token".toList ++ '"' :: (after ++ ':' :: '\x7b' :: rest)) =
      "\"token\"".toList ++ (after ++ ':' :: '\x7b' :: rest) := rfl
  rw [afterOpening?, trimStart_blanks isBefore (isBlank_mark (by decide)), name,
    Text.afterHead?, List.isPrefixOf?_eq_some_iff_append_eq.mpr rfl]
  simp only [trimStart_blanks isAfter (isBlank_mark (c := ':') (by decide))]

theorem afterClosing?_of_ne {c : Char} (other : c ≠ '\x7d') (rest : List Char) :
    afterClosing? (c :: rest) = none := by
  rw [afterClosing?]
  rintro _ same
  exact other (List.cons.inj same).1

theorem afterLastClosing?_of_not_mem {text : List Char} (noClosing : '\x7d' ∉ text) :
    afterLastClosing? text = none := by
  induction text with
  | nil => rfl
  | cons c text ih =>
    obtain ⟨other, noClosing⟩ := not_or.mp (mt List.mem_cons.mpr noClosing)
    rw [afterLastClosing?, ih noClosing]
    exact afterClosing?_of_ne (Ne.symm other) text

theorem afterLastClosing?_append {text rest : List Char} (found : afterLastClosing? text = some rest)
    (front : List Char) : afterLastClosing? (front ++ text) = some rest := by
  induction front with
  | nil => exact found
  | cons c front ih => rw [List.cons_append, afterLastClosing?, ih]

include isBehind in
/-- The last two braces are those that close the token object and what it stands in. -/
theorem afterLastClosing?_memberText {post : List Char} (noClosing : '\x7d' ∉ post) :
    afterLastClosing? (inner ++ '\x7d' :: (behind ++ '\x7d' :: post)) = some post := by
  refine afterLastClosing?_append ?_ inner
  have outer : afterLastClosing? ('\x7d' :: post) = none := by
    rw [afterLastClosing?, afterLastClosing?_of_not_mem noClosing]
    refine Eq.trans (afterClosing?.eq_1 post) ?_
    split
    · next rest isClosing =>
      have member : '\x7d' ∈ Text.trimStart post := isClosing ▸ .head _
      exact absurd ((List.dropWhile_suffix Text.isBlank).subset member) noClosing
    · rfl
  have inside : ∀ blanks, (∀ c ∈ blanks, isSpace c = true) →
      afterLastClosing? (blanks ++ '\x7d' :: post) = none := by
    intro blanks areBlank
    induction blanks with
    | nil => exact outer
    | cons c blanks ih =>
      rw [List.cons_append, afterLastClosing?, ih fun d member => areBlank d (.tail _ member)]
      refine afterClosing?_of_ne ?_ _
      rintro rfl
      cases areBlank _ (.head _)
  rw [afterLastClosing?, inside behind isBehind, afterClosing?,
    trimStart_blanks isBehind (isBlank_mark (c := '\x7d') (by decide))]
  rfl

end Searches

theorem object?_of_ne {c : Char} (other : c ≠ '\x7b') (rest : List Char) : object? (c :: rest) = object? rest := by
  have noOpening : afterOpening? (c :: rest) = none := by
    rw [afterOpening?]
    rintro _ same
    exact other (List.cons.inj same).1
  rw [object?, noOpening]
  rfl

theorem object?_of_closed {text front rest after : List Char} {c : Char} (isText : text = c :: rest)
    (closed : (afterOpening? (c :: rest)).bind afterLastClosing? = some after) (parts : text = front ++ after) :
    object? text = some front := by
  have isTaken : text.take (text.length - after.length) = front := by
    rw [parts, List.length_append, Nat.add_sub_cancel, List.take_left]
  rw [isText] at isTaken ⊢
  rw [object?, closed]
  exact congrArg some isTaken

theorem object?_memberText {pre post before after behind inner : List Char} (noOpening : '\x7b' ∉ pre)
    (noClosing : '\x7d' ∉ post) (isBefore : ∀ c ∈ before, isSpace c = true)
    (isAfter : ∀ c ∈ after, isSpace c = true) (isBehind : ∀ c ∈ behind, isSpace c = true) :
    object? (pre ++ (Json.memberText before "token".toList after ('\x7b' :: (inner ++ ['\x7d'])) behind ++ post)) =
      some (Json.memberText before "token".toList after ('\x7b' :: (inner ++ ['\x7d'])) behind) := by
  induction pre with
  | nil =>
    have isText : Json.memberText before "token".toList after ('\x7b' :: (inner ++ ['\x7d'])) behind ++ post =
        '\x7b' :: (before ++ '"' :: ("token".toList ++ '"' :: (after ++ ':' :: '\x7b' ::
          (inner ++ '\x7d' :: (behind ++ '\x7d' :: post))))) := by
      simp [Json.memberText]
    refine object?_of_closed isText ?_ rfl
    rw [afterOpening?_memberText isBefore isAfter, Option.bind_some,
      afterLastClosing?_memberText isBehind noClosing]
  | cons c pre ih =>
    obtain ⟨other, noOpening⟩ := not_or.mp (mt List.mem_cons.mpr noOpening)
    rw [List.cons_append, object?_of_ne (Ne.symm other), ih noOpening]

theorem parse?_object {inner : List Char} {written : Json}
    (reads : Json.parse? (String.ofList ('\x7b' :: inner)) = some written) :
    ∃ members, written = .object members := by
  simp only [Json.parse?, String.toList_ofList] at reads
  split at reads
  · next value rest isValue =>
    obtain ⟨_, same⟩ := Option.ite_none_right_eq_some.mp reads
    obtain rfl := Option.some.inj same
    obtain ⟨_, _, ⟨_, isObject⟩ | ⟨_, _, _, _, _, isObject, _⟩⟩ := Json.Reader.value_object_inv isValue
    · exact ⟨_, isObject⟩
    · exact ⟨_, isObject⟩
  · cases reads

theorem get?_ordered_member (key : String) (value : Json) :
    (Json.ordered (.object [(key, value)])).get? key = some (Json.ordered value) := by
  rw [Json.ordered, Json.orderedMembers, Json.orderedMembers]
  have single : (Dict.ofList [(key, Json.ordered value)]).entries = [(key, Json.ordered value)] := rfl
  rw [single]
  simp only [Json.get?, List.find?_cons, beq_self_eq_true, Option.map_some]

theorem decode?_of_padded {pre post before after behind inner : List Char} {written : Json}
    (noOpening : '\x7b' ∉ pre) (noClosing : '\x7d' ∉ post) (isBefore : ∀ c ∈ before, isSpace c = true)
    (isAfter : ∀ c ∈ after, isSpace c = true) (isBehind : ∀ c ∈ behind, isSpace c = true)
    (reads : Json.parse? (String.ofList ('\x7b' :: (inner ++ ['\x7d']))) = some written)
    (within : Json.nesting (.object [("token", written)]) ≤ Json.maxDepth) {kept : List Char} {dropped : Nat}
    (padded : kept ++ List.replicate dropped '=' = Base64.encode (Text.utf8 (pre ++
      (Json.memberText before "token".toList after ('\x7b' :: (inner ++ ['\x7d'])) behind ++ post))))
    {raw : String} (spaced : Spaced (dashed kept) raw.toList) :
    decode? raw = some (Json.ordered written) := by
  obtain ⟨members, rfl⟩ := parse?_object reads
  rw [decode?, symbols_of_spaced padded spaced, Base64.decode?_of_padded padded]
  simp only [Option.bind_eq_bind, Option.bind_some, Text.decodeUtf8_utf8,
    object?_memberText noOpening noClosing isBefore isAfter isBehind]
  have name : Json.Reader.stringRest .plain [] ("token".toList ++ ['"']) = some ("token", []) := rfl
  have wrapper := Json.parse?_memberText isBefore isAfter isBehind name reads nofun within
  rw [Json.read?, wrapper, Option.map_some, Option.bind_some, get?_ordered_member, Option.bind_some, Json.ordered]
  rfl

theorem expiry?_of_decoded {raw : String} {token : Json} (decoded : decode? raw = some token) :
    expiry? raw = (token.get? "expires_at").bind Instant.ofJson? := by
  rw [expiry?, decoded]
  rfl

/-- The object of an encoded token is read back, and so is when it expires: an object with nothing but the
token in it, which nests no deeper than data may, stands in a text with no brace before it that opens or
behind it that closes; in the text's base64 `-` is written for `/`, padding is dropped and blanks are put in. -/
theorem decode?_written {pre post before after behind inner : List Char} {written : Json}
    (noOpening : '\x7b' ∉ pre) (noClosing : '\x7d' ∉ post) (isBefore : ∀ c ∈ before, isSpace c = true)
    (isAfter : ∀ c ∈ after, isSpace c = true) (isBehind : ∀ c ∈ behind, isSpace c = true)
    (reads : Json.parse? (String.ofList ('\x7b' :: (inner ++ ['\x7d']))) = some written)
    (within : Json.nesting (.object [("token", written)]) ≤ Json.maxDepth) {kept : List Char} {dropped : Nat}
    (padded : kept ++ List.replicate dropped '=' = Base64.encode (Text.utf8 (pre ++
      (Json.memberText before "token".toList after ('\x7b' :: (inner ++ ['\x7d'])) behind ++ post))))
    {raw : String} (spaced : Spaced (dashed kept) raw.toList) :
    decode? raw = some (Json.ordered written) ∧
      expiry? raw = ((Json.ordered written).get? "expires_at").bind Instant.ofJson? := by
  have decoded := decode?_of_padded noOpening noClosing isBefore isAfter isBehind reads within padded spaced
  exact ⟨decoded, expiry?_of_decoded decoded⟩

/-! A token that expires when the first day of 1970 is over, and holds a brace in a string. -/

section Stamped

def stampedInner : List Char := "\"a\":\"\x7d\",\"expires_at\":\"1970-01-02T00:00:00Z\"".toList

def stampedObject : Json := .object [("a", .string "\x7d"), ("expires_at", .string "1970-01-02T00:00:00Z")]

def stampedSymbols : List Char :=
  "Pz8/eyJ0b2tlbiI6eyJhIjoifSIsImV4cGlyZXNfYXQiOiIxOTcwLTAxLTAyVDAwOjAwOjAwWiJ9fQ=".toList

/-- The token's base64 with `-` for `/`, a blank, and one of the two signs of padding. -/
def stamped : String :=
  "Pz8-eyJ0 b2tlbiI6eyJhIjoifSIsImV4cGlyZXNfYXQiOiIxOTcwLTAxLTAyVDAwOjAwOjAwWiJ9fQ="

theorem reads_stamped :
    Json.parse? (String.ofList ('\x7b' :: (stampedInner ++ ['\x7d']))) = some stampedObject := by cbv

theorem padded_stamped :
    stampedSymbols ++ List.replicate 1 '=' =
      Base64.encode (Text.utf8 ("???".toList ++ (Json.memberText [] "token".toList []
        ('\x7b' :: (stampedInner ++ ['\x7d'])) [] ++ []))) := by
  decide +kernel

theorem spaced_stamped : Spaced (dashed stampedSymbols) stamped.toList := by
  have blank : Text.isBlank ' ' = true := (isBlank_iff_of_ascii (by decide)).mpr (.inr rfl)
  have symbols : dashed stampedSymbols =
      "Pz8-eyJ0".toList ++
        "b2tlbiI6eyJhIjoifSIsImV4cGlyZXNfYXQiOiIxOTcwLTAxLTAyVDAwOjAwOjAwWiJ9fQ=".toList := by
    decide +kernel
  have text : stamped.toList = "Pz8-eyJ0".toList ++
      ' ' :: "b2tlbiI6eyJhIjoifSIsImV4cGlyZXNfYXQiOiIxOTcwLTAxLTAyVDAwOjAwOjAwWiJ9fQ=".toList := by
    decide +kernel
  rw [symbols, text]
  exact .append (.blank blank (.refl _))

theorem ofJson?_stamp : Instant.ofJson? (.string "1970-01-02T00:00:00Z") = some ⟨86400, 0⟩ := by
  have visible : ∀ c ∈ "1970-01-02T00:00:00Z".toList, Text.isBlank c = false := by
    intro c member
    have each : "1970-01-02T00:00:00Z".toList.all (fun c => c.toNat < 128 ∧ 32 < c.toNat) = true := by decide
    obtain ⟨single, visible⟩ := of_decide_eq_true (List.all_eq_true.mp each c member)
    exact not_isBlank_of_visible single visible
  have reads : Instant.ofRfc3339? "1970-01-02T00:00:00Z".toList = some ⟨86400, 0⟩ := rfl
  rw [Instant.ofJson?, Instant.ofText?, trim_of_visible visible, reads, Option.some_or]

theorem expires_stamped : (stampedObject.get? "expires_at").bind Instant.ofJson? = some ⟨86400, 0⟩ :=
  ofJson?_stamp

theorem decode?_dashed :
    decode? stamped = some stampedObject ∧ expiry? stamped = some ⟨86400, 0⟩ := by
  have noSpaces : ∀ c ∈ ([] : List Char), isSpace c = true := List.forall_mem_nil _
  have isOrdered : Json.ordered stampedObject = stampedObject := rfl
  have written := decode?_written (by decide) (by decide) noSpaces noSpaces noSpaces reads_stamped (by decide)
    padded_stamped spaced_stamped
  rw [isOrdered, expires_stamped] at written
  exact written

end Stamped

end Token
end WireContract

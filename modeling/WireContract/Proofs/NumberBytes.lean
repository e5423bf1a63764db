import WireContract.Proofs.LongestNumber
import WireContract.Text.NumberSpan

/-!
A scan over the bytes of a text finds the number it starts with: what a number is made of is of one byte
each, and no other character has a byte that could pass for one. Main statement: `leadingNumber?_longest`.
-/

namespace WireContract
namespace Text

def IsAscii (text : List Char) : Prop := ∀ c ∈ text, c.utf8Size = 1

instance : DecidablePred IsAscii := fun text => List.decidableBAll (fun c : Char => c.utf8Size = 1) text

theorem IsAscii.append {front back : List Char} (isFront : IsAscii front) (isBack : IsAscii back) :
    IsAscii (front ++ back) := by
  intro c member
  rcases List.mem_append.mp member with inFront | inBack
  · exact isFront c inFront
  · exact isBack c inBack

theorem toNat_lt_of_utf8Size {c : Char} (single : c.utf8Size = 1) : c.toNat < 128 :=
  Nat.lt_succ_of_le (UInt32.le_iff_toNat_le.mp (Char.utf8Size_eq_one_iff.mp single))

theorem utf8EncodeChar_cases (c : Char) :
    (c.utf8Size = 1 ∧ String.utf8EncodeChar c = [c.toNat.toUInt8]) ∨
      ∃ byte rest, String.utf8EncodeChar c = byte :: rest ∧ 128 ≤ byte ∧ c.utf8Size ≠ 1 := by
  by_cases single : c.utf8Size = 1
  · exact .inl ⟨single, String.utf8EncodeChar_eq_singleton single⟩
  refine .inr ?_
  have large : 127 < c.val.toNat := by
    by_contra small
    exact single (Char.utf8Size_eq_one_iff.mpr (UInt32.le_iff_toNat_le.mpr (Nat.le_of_not_lt small)))
  rw [String.utf8EncodeChar.eq_1, if_neg (Nat.not_le_of_lt large)]
  have marked {n : Nat} (lower : 128 ≤ n) (upper : n < 256) : 128 ≤ UInt8.ofNat n := by
    rw [UInt8.le_iff_toNat_le, UInt8.toNat_ofNat', Nat.mod_eq_of_lt upper]
    exact lower
  split
  · exact ⟨_, _, rfl, marked (by omega) (by omega), single⟩
  split
  · exact ⟨_, _, rfl, marked (by omega) (by omega), single⟩
  · exact ⟨_, _, rfl, marked (by omega) (by omega), single⟩

theorem utf8_append (front back : List Char) : utf8 (front ++ back) = utf8 front ++ utf8 back :=
  List.flatMap_append

theorem length_utf8 {text : List Char} (isAscii : IsAscii text) : (utf8 text).length = text.length := by
  induction text with
  | nil => rfl
  | cons c text ih =>
    have isRest : IsAscii text := fun other member => isAscii other (.tail _ member)
    rw [utf8, List.flatMap_cons, List.length_append, String.length_utf8EncodeChar, isAscii c (.head _),
      List.length_cons, Nat.add_comm]
    exact congrArg (· + 1) (ih isRest)

theorem cutAt?_front {front : List Char} (isAscii : IsAscii front) (rest : List Char) :
    cutAt? (front ++ rest) front.length = some (front, rest) := by
  induction front with
  | nil => cases rest <;> rfl
  | cons c front ih =>
    have isRest : IsAscii front := fun other member => isAscii other (.tail _ member)
    have single := isAscii c (.head _)
    simp only [List.cons_append, List.length_cons, cutAt?, single, Nat.add_sub_cancel, ih isRest]
    rfl

/-- Behind characters of one byte each, as many as the offset says, the text goes on with `rest`. -/
def StandsAt (text : List Char) (offset : Nat) (rest : List Char) : Prop :=
  ∃ front, IsAscii front ∧ text = front ++ rest ∧ offset = front.length

namespace StandsAt

variable {text rest : List Char} {offset : Nat}

theorem start (text : List Char) : StandsAt text 0 text := ⟨[], by simp [IsAscii], rfl, rfl⟩

theorem pass {piece : List Char} (isAscii : IsAscii piece) (stands : StandsAt text offset (piece ++ rest)) :
    StandsAt text (offset + piece.length) rest := by
  obtain ⟨front, isFront, rfl, rfl⟩ := stands
  exact ⟨front ++ piece, isFront.append isAscii, (List.append_assoc ..).symm, by rw [List.length_append]⟩

theorem pass_one {c : Char} (single : c.utf8Size = 1) (stands : StandsAt text offset (c :: rest)) :
    StandsAt text (offset + 1) rest := by
  have isAscii : IsAscii [c] := List.forall_mem_singleton.mpr single
  exact stands.pass isAscii

theorem drop_utf8 (stands : StandsAt text offset rest) : (utf8 text).drop offset = utf8 rest := by
  obtain ⟨front, isFront, rfl, rfl⟩ := stands
  rw [utf8_append, ← length_utf8 isFront, List.drop_left]

theorem le_length_utf8 (stands : StandsAt text offset rest) : offset ≤ (utf8 text).length := by
  obtain ⟨front, isFront, rfl, rfl⟩ := stands
  rw [utf8_append, List.length_append, length_utf8 isFront]
  exact Nat.le_add_right _ _

theorem standsAt_iff {chars : List Char} (isAscii : IsAscii chars) (stands : StandsAt text offset rest) :
    standsAt (utf8 text) offset chars = true ↔ ∃ c ∈ chars, rest.head? = some c := by
  rw [standsAt, ← List.head?_drop, stands.drop_utf8]
  cases rest with
  | nil => simp [utf8]
  | cons c rest =>
    have isHead : (∃ d ∈ chars, (c :: rest).head? = some d) ↔ c ∈ chars := by simp
    rw [isHead, utf8, List.flatMap_cons]
    rcases utf8EncodeChar_cases c with ⟨single, encoded⟩ | ⟨byte, more, encoded, large, wide⟩
    · rw [encoded, List.cons_append, List.head?_cons, Option.any_some, List.any_eq_true]
      refine ⟨?_, fun member => ⟨c, member, beq_self_eq_true _⟩⟩
      rintro ⟨d, member, same⟩
      have smallC := toNat_lt_of_utf8Size single
      have smallD := toNat_lt_of_utf8Size (isAscii d member)
      have sameNat := congrArg UInt8.toNat (beq_iff_eq.mp same)
      simp only [Nat.toUInt8, UInt8.toNat_ofNat'] at sameNat
      have isSame : c = d := Char.toNat_inj.mp (by omega)
      exact isSame ▸ member
    · rw [encoded, List.cons_append, List.head?_cons, Option.any_some, List.any_eq_true]
      refine ⟨?_, fun member => absurd (isAscii c member) wide⟩
      rintro ⟨d, member, same⟩
      have smallD := toNat_lt_of_utf8Size (isAscii d member)
      have sameNat := congrArg UInt8.toNat (beq_iff_eq.mp same)
      have large := UInt8.le_iff_toNat_le.mp large
      simp only [Nat.toUInt8, UInt8.toNat_ofNat', UInt8.toNat_ofNat] at sameNat large
      omega

end StandsAt

theorem isDigit_iff (c : Char) : Decimal.isDigit c = true ↔ 48 ≤ c.toNat ∧ c.toNat ≤ 57 := by
  rw [Decimal.isDigit, Bool.and_eq_true, decide_eq_true_iff, decide_eq_true_iff, Char.le_def, Char.le_def,
    UInt32.le_iff_toNat_le, UInt32.le_iff_toNat_le]
  rfl

theorem utf8Size_of_isDigit {c : Char} (isDigit : Decimal.isDigit c = true) : c.utf8Size = 1 := by
  obtain ⟨_, upper⟩ := (isDigit_iff c).mp isDigit
  refine Char.utf8Size_eq_one_iff.mpr (UInt32.le_iff_toNat_le.mpr ?_)
  exact Nat.le_trans upper (by decide)

theorem isAscii_of_isDigit {text : List Char} (isDigits : ∀ c ∈ text, Decimal.isDigit c = true) :
    IsAscii text := fun c member => utf8Size_of_isDigit (isDigits c member)

theorem isAscii_takeWhile (text : List Char) : IsAscii (text.takeWhile Decimal.isDigit) :=
  isAscii_of_isDigit fun _ member => List.mem_takeWhile_imp member

theorem length_takeWhile_utf8 (text : List Char) :
    ((utf8 text).takeWhile isDigitByte).length = (text.takeWhile Decimal.isDigit).length := by
  induction text with
  | nil => rfl
  | cons c text ih =>
    rw [utf8, List.flatMap_cons]
    rcases utf8EncodeChar_cases c with ⟨single, encoded⟩ | ⟨byte, more, encoded, large, wide⟩
    · have same : isDigitByte c.toNat.toUInt8 = Decimal.isDigit c := by
        have small := toNat_lt_of_utf8Size single
        rw [Bool.eq_iff_iff, isDigit_iff, isDigitByte, Bool.and_eq_true, decide_eq_true_iff,
          decide_eq_true_iff, UInt8.le_iff_toNat_le, UInt8.le_iff_toNat_le, Nat.toUInt8,
          UInt8.toNat_ofNat', Nat.mod_eq_of_lt (by omega)]
        rfl
      rw [encoded, List.cons_append, List.nil_append, List.takeWhile_cons, List.takeWhile_cons, same]
      split
      · exact congrArg (· + 1) ih
      · rfl
    · have noByte : ¬ isDigitByte byte = true := by
        have large := UInt8.le_iff_toNat_le.mp large
        rw [isDigitByte, Bool.and_eq_true, decide_eq_true_iff, decide_eq_true_iff,
          UInt8.le_iff_toNat_le, UInt8.le_iff_toNat_le]
        simp only [UInt8.toNat_ofNat] at large ⊢
        omega
      have noDigit : ¬ Decimal.isDigit c = true := fun isDigit => wide (utf8Size_of_isDigit isDigit)
      rw [encoded, List.cons_append, List.takeWhile_cons_of_neg noByte, List.takeWhile_cons_of_neg noDigit]
      rfl

namespace StandsAt

variable {text rest : List Char} {offset : Nat}

theorem digitsFrom? (stands : StandsAt text offset rest) :
    digitsFrom? (utf8 text) offset = some (rest.takeWhile Decimal.isDigit).length := by
  rw [Text.digitsFrom?, if_pos stands.le_length_utf8, stands.drop_utf8, length_takeWhile_utf8]

theorem pass_digits (stands : StandsAt text offset rest) :
    StandsAt text (offset + (rest.takeWhile Decimal.isDigit).length) (rest.dropWhile Decimal.isDigit) := by
  refine StandsAt.pass (isAscii_takeWhile rest) ?_
  rw [List.takeWhile_append_dropWhile]
  exact stands

end StandsAt

theorem isSome_natural? (text : List Char) :
    (natural? text).isSome = true ↔ 0 < (text.takeWhile Decimal.isDigit).length := by
  rw [natural?_eq, List.length_pos_iff]
  split
  · next isEmpty => simp [isEmpty]
  · next isThere => simp [isThere]

section PowerSpans

variable {mark : Char} (isMark : mark = 'e' ∨ mark = 'E')

include isMark

theorem powerSpan_signed {sign : Char} (isSign : sign = '+' ∨ sign = '-') (text : List Char) :
    powerSpan (mark :: sign :: text) =
      if 0 < (text.takeWhile Decimal.isDigit).length then mark :: sign :: text.takeWhile Decimal.isDigit
      else [] := by
  simp only [← isSome_natural?]
  rw [powerSpan, exponent?_marked isMark]
  rcases isSign with rfl | rfl
  · rfl
  · simp only [signed, Option.isSome_map, signedSpan]

theorem powerSpan_unsigned {text : List Char} (unsigned : ¬ ∃ sign ∈ ['+', '-'], text.head? = some sign) :
    powerSpan (mark :: text) =
      if 0 < (text.takeWhile Decimal.isDigit).length then mark :: text.takeWhile Decimal.isDigit
      else [] := by
  simp only [← isSome_natural?]
  rw [powerSpan, exponent?_marked isMark]
  cases text with
  | nil => rfl
  | cons c text =>
    have noMinus : c ≠ '-' := by
      rintro rfl
      exact unsigned ⟨'-', by simp, rfl⟩
    have noPlus : c ≠ '+' := by
      rintro rfl
      exact unsigned ⟨'+', by simp, rfl⟩
    simp [signed, signedSpan, noMinus, noPlus]

end PowerSpans

theorem powerSpan_unmarked {text : List Char} (unmarked : ¬ ∃ mark ∈ ['e', 'E'], text.head? = some mark) :
    powerSpan text = [] := by
  cases text with
  | nil => rfl
  | cons mark text =>
    rw [powerSpan, exponent?_unmarked (by
      rintro _ ⟨⟩ isMark
      exact unmarked ⟨mark, by simpa using isMark, rfl⟩)]
    rfl

theorem eq_cons_of_head? {text : List Char} {c : Char} (isHead : text.head? = some c) :
    ∃ rest, text = c :: rest := by
  obtain ⟨rest, rfl⟩ := List.head?_eq_some_iff.mp isHead
  exact ⟨rest, rfl⟩

namespace StandsAt

variable {text rest : List Char} {offset : Nat}

theorem exponentEnd? (stands : StandsAt text offset rest) :
    exponentEnd? (utf8 text) offset = some (offset + (powerSpan rest).length) := by
  rw [Text.exponentEnd?]
  have marks : IsAscii ['e', 'E'] := by decide
  have signs : IsAscii ['+', '-'] := by decide
  by_cases marked : ∃ mark ∈ ['e', 'E'], rest.head? = some mark
  · rw [if_pos ((stands.standsAt_iff marks).mpr marked)]
    obtain ⟨mark, isMark, isHead⟩ := marked
    obtain ⟨rest, rfl⟩ := eq_cons_of_head? isHead
    have stands := stands.pass_one (marks mark isMark)
    replace isMark : mark = 'e' ∨ mark = 'E' := by simpa using isMark
    by_cases hasSign : ∃ sign ∈ ['+', '-'], rest.head? = some sign
    · rw [if_pos ((stands.standsAt_iff signs).mpr hasSign)]
      obtain ⟨sign, isSign, isHead⟩ := hasSign
      obtain ⟨rest, rfl⟩ := eq_cons_of_head? isHead
      have stands := stands.pass_one (signs sign isSign)
      replace isSign : sign = '+' ∨ sign = '-' := by simpa using isSign
      simp only [stands.digitsFrom?, Option.map_some, powerSpan_signed isMark isSign]
      split
      · simp only [List.length_cons]
        congr 1
        omega
      · rfl
    · rw [if_neg (fun isSign => hasSign ((stands.standsAt_iff signs).mp isSign))]
      simp only [stands.digitsFrom?, Option.map_some, powerSpan_unsigned isMark hasSign]
      split
      · simp only [List.length_cons]
        congr 1
        omega
      · rfl
  · rw [if_neg (fun isMark => marked ((stands.standsAt_iff marks).mp isMark)), powerSpan_unmarked marked]
    rfl

theorem decimalEnd? (stands : StandsAt text offset rest) (finite : ¬ "Infinity".toList <+: rest) :
    decimalEnd? (utf8 text) offset =
      some ((magnitude? rest).map fun _ => offset + (magnitudeSpan rest).length) := by
  have points : IsAscii ['.'] := by decide
  have behind := stands.pass_digits
  rw [Text.decimalEnd?, stands.digitsFrom?]
  simp only [Option.bind_eq_bind, Option.bind_some]
  by_cases pointed : ∃ point ∈ ['.'], (rest.dropWhile Decimal.isDigit).head? = some point
  · rw [if_pos ((behind.standsAt_iff points).mpr pointed)]
    obtain ⟨point, isPoint, isHead⟩ := pointed
    obtain rfl := List.mem_singleton.mp isPoint
    obtain ⟨places, isPlaces⟩ := eq_cons_of_head? isHead
    rw [isPlaces] at behind
    have behind := behind.pass_one (c := '.') rfl
    rw [behind.digitsFrom?, magnitude?_pointed finite isPlaces, magnitudeSpan_pointed finite isPlaces]
    simp only [Option.bind_some, Nat.add_eq_zero_iff, List.length_eq_zero_iff, List.append_eq_nil_iff,
      behind.pass_digits.exponentEnd?]
    split
    · rfl
    · simp only [Option.pure_def, Option.map_some, List.length_append, List.length_cons, Option.some.injEq]
      omega
  · rw [if_neg (fun isPoint => pointed ((behind.standsAt_iff points).mp isPoint))]
    have noPoint : ∀ places, rest.dropWhile Decimal.isDigit ≠ '.' :: places := by
      intro places isPlaces
      exact pointed ⟨'.', by simp, by rw [isPlaces]; rfl⟩
    rw [magnitude?_pointless finite noPoint, magnitudeSpan_pointless finite noPoint]
    simp only [List.length_eq_zero_iff, behind.exponentEnd?]
    split
    · rfl
    · simp only [Option.pure_def, Option.bind_some, Option.map_some, List.length_append, Option.some.injEq]
      omega

end StandsAt

theorem Signed.isAscii {α : Type} [Neg α] {Spells : List Char → α → Prop}
    (isAscii : ∀ piece x, Spells piece x → IsAscii piece) {piece : List Char} {x : α}
    (spells : Signed Spells piece x) : IsAscii piece := by
  cases spells with
  | unsigned spells => exact isAscii _ _ spells
  | plus spells =>
    have isSign : IsAscii ['+'] := by decide
    exact isSign.append (isAscii _ _ spells)
  | minus spells =>
    have isSign : IsAscii ['-'] := by decide
    exact isSign.append (isAscii _ _ spells)

theorem SpellsPower.isAscii {power : List Char} {exponent : Int} (spells : SpellsPower power exponent) :
    IsAscii power := by
  cases spells with
  | absent => decide
  | @marked mark text n isMark integer =>
    have single : IsAscii [mark] := by
      rcases isMark with rfl | rfl
      · decide
      · decide
    exact single.append (integer.isAscii fun _ _ natural => isAscii_of_isDigit natural.1.2)

theorem SpellsMagnitude.isAscii {piece : List Char} {x : Float} (spells : SpellsMagnitude piece x) :
    IsAscii piece := by
  cases spells with
  | infinity => decide
  | whole isNumber isPower => exact (isAscii_of_isDigit isNumber.2).append isPower.isAscii
  | pointed isNumber isPower =>
    have isWhole := isAscii_of_isDigit fun c member => isNumber.2 c (List.mem_append_left _ member)
    have isPlaces := isAscii_of_isDigit fun c member => isNumber.2 c (List.mem_append_right _ member)
    have isPoint : IsAscii ['.'] := by decide
    exact isWhole.append (isPoint.append (isPlaces.append isPower.isAscii))

theorem cutAt?_piece {front piece text : List Char} (isFront : IsAscii front) (isPiece : IsAscii piece)
    (starts : piece <+: text) :
    ∃ rest, cutAt? (front ++ text) (front.length + piece.length) = some (front ++ piece, rest) := by
  obtain ⟨rest, rfl⟩ := starts
  rw [← List.append_assoc, ← List.length_append]
  exact ⟨rest, cutAt?_front (isFront.append isPiece) rest⟩

theorem numberSpan?_behind {sign text : List Char} (isAscii : IsAscii sign)
    (start : (if standsAt (utf8 (sign ++ text)) 0 ['+', '-'] then 1 else 0) = sign.length) :
    numberSpan? (sign ++ text) = some ((magnitude? text).map fun _ => sign ++ magnitudeSpan text) := by
  have stands : StandsAt (sign ++ text) sign.length text := ⟨sign, isAscii, rfl, rfl⟩
  rw [numberSpan?, start, cutAt?_front isAscii]
  simp only [Option.bind_eq_bind, Option.bind_some]
  by_cases infinite : "Infinity".toList <+: text
  · have isWord : IsAscii "Infinity".toList := by decide
    obtain ⟨_, cut⟩ := cutAt?_piece isAscii isWord infinite
    have isLength : "Infinity".toList.length = "Infinity".length := rfl
    rw [isLength] at cut
    obtain ⟨rest, rfl⟩ := infinite
    rw [if_pos (List.isPrefixOf_iff_prefix.mpr (List.prefix_append _ _)), cut, magnitude?_infinite, magnitudeSpan,
      if_pos (List.prefix_append _ _)]
    rfl
  · rw [if_neg fun starts => infinite (List.isPrefixOf_iff_prefix.mp starts),
      stands.decimalEnd? infinite]
    cases isRead : magnitude? text with
    | none => rfl
    | some x =>
      have longest := readsLongest_magnitude.found text x isRead
      obtain ⟨rest, cut⟩ := cutAt?_piece isAscii longest.spells.isAscii longest.starts
      simp only [Option.map_some, Option.bind_some, cut]
      rfl

/-- The scan never cuts outside the text or inside a character, and what it cuts off is the number. -/
theorem numberSpan?_eq (text : List Char) :
    numberSpan? text = some ((signed magnitude? text).map fun _ => signedSpan magnitudeSpan text) := by
  have signs : IsAscii ['+', '-'] := by decide
  have isSign := (StandsAt.start text).standsAt_iff signs
  by_cases hasSign : ∃ sign ∈ ['+', '-'], text.head? = some sign
  · have start : (if standsAt (utf8 text) 0 ['+', '-'] then 1 else 0) = 1 :=
      if_pos (isSign.mpr hasSign)
    obtain ⟨sign, member, isHead⟩ := hasSign
    obtain ⟨rest, rfl⟩ := eq_cons_of_head? isHead
    have isAscii : IsAscii [sign] := List.forall_mem_singleton.mpr (signs sign member)
    have span := numberSpan?_behind isAscii start
    rcases List.mem_cons.mp member with rfl | member
    · exact span
    · obtain rfl := List.mem_singleton.mp member
      rw [signed, Option.map_map]
      exact span
  · have start : (if standsAt (utf8 text) 0 ['+', '-'] then 1 else 0) = 0 :=
      if_neg fun isThere => hasSign (isSign.mp isThere)
    have isAscii : IsAscii [] := by decide
    refine (numberSpan?_behind isAscii start).trans ?_
    cases text with
    | nil => rfl
    | cons c rest =>
      have noPlus : c ≠ '+' := by
        rintro rfl
        exact hasSign ⟨'+', by simp, rfl⟩
      have noMinus : c ≠ '-' := by
        rintro rfl
        exact hasSign ⟨'-', by simp, rfl⟩
      simp [signed, signedSpan, noPlus, noMinus]

/-- With the blanks skipped, a number is found exactly if a piece at the start spells one, and it is what the
longest such piece spells; the scan over the bytes cuts off just that piece. -/
theorem leadingNumber?_longest (text : String) :
    (leadingNumber? text = none ↔
      ∀ piece x, piece <+: trimStart text.toList → ¬ SpellsNumber piece x) ∧
    (∀ x, leadingNumber? text = some x ↔
      ∃ piece, Longest SpellsNumber (trimStart text.toList) piece x) ∧
    ∃ span, numberSpan? (trimStart text.toList) = some span ∧
      ∀ piece, span = some piece ↔ ∃ x, Longest SpellsNumber (trimStart text.toList) piece x := by
  refine ⟨readsLongest_number.eq_none_iff _, readsLongest_number.found_iff readsWhole_number _,
    _, numberSpan?_eq _, fun piece => ⟨fun isSpan => ?_, ?_⟩⟩
  · obtain ⟨x, isRead, rfl⟩ := Option.map_eq_some_iff.mp isSpan
    exact ⟨x, readsLongest_number.found _ x isRead⟩
  · rintro ⟨x, longest⟩
    have isRead := (readsLongest_number.found_iff readsWhole_number _ x).mpr ⟨piece, longest⟩
    rw [isRead, Option.map_some, (readsLongest_number.found _ x isRead).unique longest]

end Text
end WireContract

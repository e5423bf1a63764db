import Mathlib.Data.List.TakeWhile
import WireContract.Proofs.PrettyReading

namespace WireContract
namespace Json

mutual

def nesting : Json → Nat
  | .array items => itemsNesting items + 1
  | .object members => membersNesting members + 1
  | _ => 0

def itemsNesting : List Json → Nat
  | [] => 0
  | item :: rest => max (nesting item) (itemsNesting rest)

def membersNesting : List (String × Json) → Nat
  | [] => 0
  | (_, item) :: rest => max (nesting item) (membersNesting rest)

end

namespace Reader

variable {text rest : List Char} (more : List Char)

theorem skip_more {c : Char} (skipped : skip text = c :: rest) :
    skip (text ++ more) = c :: (rest ++ more) := by
  rw [skip, List.dropWhile_append, ← skip, skipped]
  rfl

theorem stringRest_more {place : Place} {done : List Char} {s : String}
    (read : stringRest place done text = some (s, rest)) :
    stringRest place done (text ++ more) = some (s, rest ++ more) := by
  fun_induction stringRest place done text <;> simp_all [stringRest]

theorem literal_more {word : String} (read : literal word text = some rest) :
    literal word (text ++ more) = some (rest ++ more) := by
  obtain ⟨isPrefix, same⟩ := Option.ite_none_right_eq_some.mp read
  obtain ⟨behind, rfl⟩ := List.isPrefixOf_iff_prefix.mp isPrefix
  have starts : word.toList.isPrefixOf (word.toList ++ behind ++ more) = true :=
    List.isPrefixOf_iff_prefix.mpr (by simp)
  obtain rfl := Option.some.inj same
  rw [literal, if_pos starts, ← String.length_toList, List.append_assoc, List.drop_left, List.drop_left]

/-- What stands behind the text that a reader takes does not matter, as long as something does. -/
structure GoesByFront {α : Type} (read : List Char → Option (α × List Char)) : Prop where
  onEmpty : ∀ x rest, read [] = some (x, rest) → rest = []
  onMore : ∀ text x rest more, read text = some (x, rest) → rest ≠ [] →
    read (text ++ more) = some (x, rest ++ more)

namespace GoesByFront

variable {α β : Type}

theorem never : GoesByFront fun _ => (none : Option (α × List Char)) := ⟨nofun, nofun⟩

theorem pure (x : α) : GoesByFront fun text => some (x, text) where
  onEmpty := by
    rintro _ _ ⟨⟩
    rfl
  onMore := by
    rintro _ _ _ _ ⟨⟩ _
    rfl

theorem bind {read : List Char → Option (α × List Char)} {next : α → List Char → Option (β × List Char)}
    (first : GoesByFront read) (second : ∀ x, GoesByFront (next x)) :
    GoesByFront fun text => (read text).bind fun (x, rest) => next x rest where
  onEmpty := by
    intro y rest isRead
    obtain ⟨⟨x, behind⟩, isFirst, isSecond⟩ := Option.bind_eq_some_iff.mp isRead
    obtain rfl := first.onEmpty x behind isFirst
    exact (second x).onEmpty y rest isSecond
  onMore := by
    intro text y rest more isRead isThere
    obtain ⟨⟨x, behind⟩, isFirst, isSecond⟩ := Option.bind_eq_some_iff.mp isRead
    have goesOn : behind ≠ [] := by
      rintro rfl
      exact isThere ((second x).onEmpty y rest isSecond)
    simp only [first.onMore text x behind more isFirst goesOn, Option.bind_some]
    exact (second x).onMore behind y rest more isSecond isThere

theorem digits : GoesByFront fun text => some (digits text) where
  onEmpty := by
    rintro _ _ ⟨⟩
    rfl
  onMore := by
    intro text whole rest more isRead isThere
    obtain ⟨isWhole, isRest⟩ := Prod.mk.inj (Option.some.inj isRead)
    have parts : text = whole ++ rest := by rw [← isWhole, ← isRest, List.takeWhile_append_dropWhile]
    have isDigits : whole.all Char.isDigit = true := by
      rw [List.all_eq_true]
      intro c member
      rw [← isWhole] at member
      exact (isDigit_eq c).symm.trans (List.mem_takeWhile_imp member)
    have stops : ∀ c ∈ (rest ++ more).head?, c.isDigit = false := by
      obtain ⟨d, behind, rfl⟩ := List.exists_cons_of_ne_nil isThere
      rintro _ ⟨⟩
      have stops := List.head_dropWhile_not (p := Decimal.isDigit) (l := text) (by rw [isRest]; exact isThere)
      simp only [isRest, List.head_cons] at stops
      rw [← isDigit_eq]
      exact stops
    rw [parts, List.append_assoc, digits_append isDigits stops]

theorem someDigits (f : List Char → α) : GoesByFront fun text =>
    if (Reader.digits text).1.isEmpty then none else some (f (Reader.digits text).1, (Reader.digits text).2) := by
  have next (whole : List Char) : GoesByFront fun rest =>
      if whole.isEmpty then none else some (f whole, rest) := by
    split
    · exact never
    · exact pure (f whole)
  exact digits.bind next

end GoesByFront

theorem goesByFront_fraction? : GoesByFront fraction? where
  onEmpty := by
    rintro _ _ ⟨⟩
    rfl
  onMore := by
    intro text places rest more read isThere
    unfold fraction? at read
    split at read
    · next behind => exact (GoesByFront.someDigits some).onMore behind places rest more read isThere
    · next noPoint =>
      cases read
      obtain ⟨c, behind, rfl⟩ := List.exists_cons_of_ne_nil isThere
      rw [List.cons_append, fraction?]
      rintro _ isPoint
      cases isPoint
      exact noPoint behind rfl

theorem goesByFront_exponent? : GoesByFront exponent? where
  onEmpty := by
    rintro _ _ ⟨⟩
    rfl
  onMore := by
    intro text power rest more read isThere
    rcases text with _ | ⟨c, behind⟩
    · cases read
      exact absurd rfl isThere
    by_cases isMark : c = 'e' ∨ c = 'E'
    · have sized (negative : Bool) := GoesByFront.someDigits fun size =>
        some (if negative then -(Decimal.natOfDigits size : Int) else Decimal.natOfDigits size)
      rcases behind with _ | ⟨d, behind⟩
      · simp only [exponent?, if_pos isMark] at read
        cases read
      by_cases isMinus : d = '-'
      · subst isMinus
        simp only [exponent?, List.cons_append, if_pos isMark] at read ⊢
        exact (sized true).onMore behind power rest more read isThere
      by_cases isPlus : d = '+'
      · subst isPlus
        simp only [exponent?, List.cons_append, if_pos isMark] at read ⊢
        exact (sized false).onMore behind power rest more read isThere
      · have unsigned (behind : List Char) : exponent? (c :: d :: behind) =
            if (digits (d :: behind)).1.isEmpty then none
            else some (some (if false then -(Decimal.natOfDigits (digits (d :: behind)).1 : Int)
              else Decimal.natOfDigits (digits (d :: behind)).1), (digits (d :: behind)).2) := by
          simp [exponent?, isMark, isMinus, isPlus]
        rw [unsigned] at read
        exact (unsigned (behind ++ more)).trans ((sized false).onMore (d :: behind) power rest more read isThere)
    · simp only [exponent?, List.cons_append, if_neg isMark] at read ⊢
      cases read
      rfl

def ofParts? (negative : Bool) (whole : List Char) (places : Option (List Char)) (power : Option Int) :
    Option Number :=
  match places, power with
  | none, none => integerOf? negative whole
  | _, _ => floatOf? negative whole (places.getD []) (power.getD 0)

def behindWhole? (negative : Bool) (whole text : List Char) : Option (Number × List Char) :=
  match whole with
  | [] => none
  | '0' :: _ :: _ => none
  | whole =>
    (fraction? text).bind fun (places, rest) =>
      (exponent? rest).bind fun (power, rest) => (ofParts? negative whole places power).map (·, rest)

theorem goesByFront_behindWhole? (negative : Bool) (whole : List Char) :
    GoesByFront (behindWhole? negative whole) := by
  have kept (number : Option Number) : GoesByFront fun rest => number.map (·, rest) := by
    cases number with
    | none => exact .never
    | some n => exact .pure n
  unfold behindWhole?
  split
  · exact .never
  · exact .never
  · exact goesByFront_fraction?.bind fun places => goesByFront_exponent?.bind fun power => kept _

theorem behindWhole?_unpadded (negative : Bool) {whole : List Char} (isThere : whole ≠ [])
    (unpadded : ∀ c rest, whole ≠ '0' :: c :: rest) (text : List Char) :
    behindWhole? negative whole text =
      (fraction? text).bind fun (places, rest) =>
        (exponent? rest).bind fun (power, rest) => (ofParts? negative whole places power).map (·, rest) := by
  unfold behindWhole?
  split
  · exact absurd rfl isThere
  · exact absurd rfl (unpadded _ _)
  · rfl

theorem number?_eq (negative : Bool) {text : List Char} (noMinus : text.head? ≠ some '-') :
    number? ((if negative then ['-'] else []) ++ text) =
      behindWhole? negative (digits text).1 (digits text).2 := by
  have signed := Numeral.number?_signed negative noMinus
  generalize (if negative then ['-'] else []) ++ text = written, (digits text).1 = whole,
    (digits text).2 = behind at signed ⊢
  split at signed
  · exact signed
  · exact signed
  · next isThere unpadded =>
    rw [behindWhole?_unpadded negative isThere unpadded]
    cases isFraction : fraction? behind with
    | none =>
      simp only [isFraction] at signed
      exact signed
    | some cut =>
      cases isPower : exponent? cut.2 with
      | none =>
        simp only [isFraction, isPower] at signed
        simp only [Option.bind_some, isPower, Option.bind_none]
        exact signed
      | some power =>
        simp only [isFraction, isPower] at signed
        simp only [Option.bind_some, isPower, ofParts?]
        exact signed

theorem goesByFront_number? : GoesByFront number? where
  onEmpty := by
    rintro _ _ ⟨⟩
  onMore := by
    intro text n rest more read isThere
    have unsigned (negative : Bool) := GoesByFront.digits.bind fun whole => goesByFront_behindWhole? negative whole
    rcases text with _ | ⟨c, behind⟩
    · cases read
    by_cases isMinus : c = '-'
    · subst isMinus
      rcases behind with _ | ⟨d, behind⟩
      · cases read
      have noMinus (behind : List Char) : (d :: behind).head? ≠ some '-' := by
        rintro ⟨⟩
        cases read
      have signed (behind : List Char) := number?_eq true (noMinus behind)
      exact (signed (behind ++ more)).trans
        ((unsigned true).onMore (d :: behind) n rest more ((signed behind).symm.trans read) isThere)
    · have noMinus (behind : List Char) : (c :: behind).head? ≠ some '-' := by
        rintro ⟨⟩
        exact isMinus rfl
      have signless (behind : List Char) := number?_eq false (noMinus behind)
      exact (signless (behind ++ more)).trans
        ((unsigned false).onMore (c :: behind) n rest more ((signless behind).symm.trans read) isThere)

theorem ne_nil_of_skip {c : Char} {behind : List Char} (skipped : skip text = c :: behind) : text ≠ [] := by
  rintro rfl
  cases skipped

theorem items_nil (fuel depth : Nat) : Reader.items fuel depth [] = none := by
  rcases fuel with _ | _ | fuel <;> rfl

theorem members_nil (fuel depth : Nat) : members fuel depth [] = none := by
  rcases fuel with _ | fuel <;> rfl

theorem value_list_inv {fuel depth : Nat} {text rest : List Char} {v : Json}
    (read : value (fuel + 1) depth ('[' :: text) = some (v, rest)) :
    ∃ left, depth = left + 1 ∧ ((skip text = ']' :: rest ∧ v = .array []) ∨
      ∃ c behind list, skip text = c :: behind ∧ c ≠ ']' ∧ v = .array list ∧
        Reader.items fuel left (c :: behind) = some (list, rest)) := by
  rw [value_list] at read
  rcases depth with _ | left
  · cases read
  refine ⟨left, rfl, ?_⟩
  dsimp only at read
  split at read
  · next closes =>
    cases read
    exact .inl ⟨closes, rfl⟩
  · next goesOn =>
    obtain ⟨⟨list, after⟩, isList, same⟩ := Option.map_eq_some_iff.mp read
    cases same
    cases isFirst : skip text with
    | nil =>
      rw [isFirst, items_nil] at isList
      cases isList
    | cons c behind =>
      rw [isFirst] at isList
      refine .inr ⟨c, behind, list, rfl, ?_, rfl, isList⟩
      rintro rfl
      exact goesOn behind isFirst

theorem value_list_of_items {fuel depth : Nat} {text behind : List Char} {c : Char}
    (isFirst : skip text = c :: behind) (goesOn : c ≠ ']') :
    value (fuel + 1) (depth + 1) ('[' :: text) =
      (Reader.items fuel depth (c :: behind)).map fun (list, rest) => (.array list, rest) := by
  rw [value_list, isFirst]
  dsimp only
  split
  · next closes => exact absurd (List.cons.inj closes).1 goesOn
  · rfl

theorem value_object_inv {fuel depth : Nat} {text rest : List Char} {v : Json}
    (read : value (fuel + 1) depth ('\x7b' :: text) = some (v, rest)) :
    ∃ left, depth = left + 1 ∧ ((skip text = '\x7d' :: rest ∧ v = .object []) ∨
      ∃ c behind list, skip text = c :: behind ∧ c ≠ '\x7d' ∧ v = .object list ∧
        members fuel left (c :: behind) = some (list, rest)) := by
  rw [value_object] at read
  rcases depth with _ | left
  · cases read
  refine ⟨left, rfl, ?_⟩
  dsimp only at read
  split at read
  · next closes =>
    cases read
    exact .inl ⟨closes, rfl⟩
  · next goesOn =>
    obtain ⟨⟨list, after⟩, isList, same⟩ := Option.map_eq_some_iff.mp read
    cases same
    cases isFirst : skip text with
    | nil =>
      rw [isFirst, members_nil] at isList
      cases isList
    | cons c behind =>
      rw [isFirst] at isList
      refine .inr ⟨c, behind, list, rfl, ?_, rfl, isList⟩
      rintro rfl
      exact goesOn behind isFirst

theorem value_object_of_members {fuel depth : Nat} {text behind : List Char} {c : Char}
    (isFirst : skip text = c :: behind) (goesOn : c ≠ '\x7d') :
    value (fuel + 1) (depth + 1) ('\x7b' :: text) =
      (members fuel depth (c :: behind)).map fun (list, rest) => (.object list, rest) := by
  rw [value_object, isFirst]
  dsimp only
  split
  · next closes => exact absurd (List.cons.inj closes).1 goesOn
  · rfl

theorem items_inv {fuel depth : Nat} {text rest : List Char} {list : List Json}
    (read : Reader.items (fuel + 1) depth text = some (list, rest)) :
    ∃ item behind, value fuel depth text = some (item, behind) ∧
      ((skip behind = ']' :: rest ∧ list = [item]) ∨
        ∃ after others, skip behind = ',' :: after ∧ list = item :: others ∧
          Reader.items fuel depth after = some (others, rest)) := by
  rw [items_succ] at read
  split at read
  · cases read
  · next item behind isItem =>
    refine ⟨item, behind, isItem, ?_⟩
    split at read
    · next after isComma =>
      obtain ⟨⟨others, _⟩, isRest, same⟩ := Option.map_eq_some_iff.mp read
      cases same
      exact .inr ⟨after, others, isComma, rfl, isRest⟩
    · next closes =>
      cases read
      exact .inl ⟨closes, rfl⟩
    · cases read

theorem members_inv {fuel depth : Nat} {text rest : List Char} {list : List (String × Json)}
    (read : members (fuel + 1) depth text = some (list, rest)) :
    ∃ opened key named written item behind, skip text = '"' :: opened ∧
      stringRest .plain [] opened = some (key, named) ∧ skip named = ':' :: written ∧
      value fuel depth written = some (item, behind) ∧
      ((skip behind = '\x7d' :: rest ∧ list = [(key, item)]) ∨
        ∃ after others, skip behind = ',' :: after ∧ list = (key, item) :: others ∧
          members fuel depth after = some (others, rest)) := by
  rw [members] at read
  split at read
  · next opened isOpened =>
    split at read
    · cases read
    · next key named isKey =>
      split at read
      · next written isNamed =>
        split at read
        · cases read
        · next item behind isItem =>
          refine ⟨opened, key, named, written, item, behind, isOpened, isKey, isNamed, isItem, ?_⟩
          split at read
          · next after isComma =>
            obtain ⟨⟨others, _⟩, isRest, same⟩ := Option.map_eq_some_iff.mp read
            cases same
            exact .inr ⟨after, others, isComma, rfl, isRest⟩
          · next closes =>
            cases read
            exact .inl ⟨closes, rfl⟩
          · cases read
      · cases read
  · cases read

theorem members_of_parts {fuel depth : Nat} {text opened named written behind : List Char} {key : String}
    {item : Json} (isOpened : skip text = '"' :: opened)
    (isKey : stringRest .plain [] opened = some (key, named)) (isNamed : skip named = ':' :: written)
    (isItem : value fuel depth written = some (item, behind)) :
    members (fuel + 1) depth text =
      match skip behind with
      | ',' :: rest => (members fuel depth rest).map fun (list, rest) => ((key, item) :: list, rest)
      | '\x7d' :: rest => some ([(key, item)], rest)
      | _ => none := by
  have unfolded := members.eq_def (fuel + 1) depth text
  simp only [isOpened, isKey, isNamed, isItem] at unfolded
  exact unfolded

theorem value_list_lasts {fuel fuel' depth depth' : Nat} {text rest more : List Char} {v : Json}
    (inside : ∀ {left left' text rest list}, Reader.items fuel left text = some (list, rest) →
      itemsNesting list ≤ left' → Reader.items fuel' left' (text ++ more) = some (list, rest ++ more))
    (read : value (fuel + 1) depth ('[' :: text) = some (v, rest)) (within : nesting v ≤ depth') :
    value (fuel' + 1) depth' ('[' :: (text ++ more)) = some (v, rest ++ more) := by
  obtain ⟨left, _, ⟨closes, rfl⟩ | ⟨c, behind, list, isFirst, goesOn, rfl, isList⟩⟩ := value_list_inv read
  · obtain ⟨left', rfl⟩ := Nat.exists_eq_add_of_le' (show 1 ≤ depth' from within)
    rw [value_list, skip_more more closes]
    rfl
  · rw [nesting] at within
    obtain ⟨left', rfl⟩ := Nat.exists_eq_add_of_le' (Nat.le_trans (Nat.le_add_left 1 _) within)
    rw [value_list_of_items (skip_more more isFirst) goesOn, ← List.cons_append,
      inside isList (Nat.le_of_succ_le_succ within)]
    rfl

theorem value_object_lasts {fuel fuel' depth depth' : Nat} {text rest more : List Char} {v : Json}
    (inside : ∀ {left left' text rest list}, members fuel left text = some (list, rest) →
      membersNesting list ≤ left' → members fuel' left' (text ++ more) = some (list, rest ++ more))
    (read : value (fuel + 1) depth ('\x7b' :: text) = some (v, rest)) (within : nesting v ≤ depth') :
    value (fuel' + 1) depth' ('\x7b' :: (text ++ more)) = some (v, rest ++ more) := by
  obtain ⟨left, _, ⟨closes, rfl⟩ | ⟨c, behind, list, isFirst, goesOn, rfl, isList⟩⟩ := value_object_inv read
  · obtain ⟨left', rfl⟩ := Nat.exists_eq_add_of_le' (show 1 ≤ depth' from within)
    rw [value_object, skip_more more closes]
    rfl
  · rw [nesting] at within
    obtain ⟨left', rfl⟩ := Nat.exists_eq_add_of_le' (Nat.le_trans (Nat.le_add_left 1 _) within)
    rw [value_object_of_members (skip_more more isFirst) goesOn, ← List.cons_append,
      inside isList (Nat.le_of_succ_le_succ within)]
    rfl

mutual

/-- A value is read in the same way with more fuel, at any depth that it nests within, and whatever follows;
a number must have ended. -/
theorem value_lasts (fuel : Nat) {fuel' depth depth' : Nat} {text rest : List Char} {v : Json} (more : List Char)
    (read : value fuel depth text = some (v, rest)) (enough : fuel ≤ fuel') (within : nesting v ≤ depth')
    (ended : rest = [] → ∀ n, v ≠ .number n) :
    value fuel' depth' (text ++ more) = some (v, rest ++ more) := by
  match fuel, fuel' with
  | 0, _ => cases read
  | _ + 1, 0 => cases enough
  | fuel + 1, fuel' + 1 =>
    have enough := Nat.le_of_succ_le_succ enough
    rw [value] at read ⊢
    cases skipped : skip text with
    | nil =>
      rw [skipped] at read
      cases read
    | cons c behind =>
      rw [skipped] at read
      rw [skip_more more skipped]
      dsimp only at read ⊢
      by_cases isQuote : c = '"'
      · rw [if_pos isQuote] at read ⊢
        obtain ⟨⟨s, after⟩, isString, same⟩ := Option.map_eq_some_iff.mp read
        cases same
        rw [stringRest_more more isString]
        rfl
      rw [if_neg isQuote] at read ⊢
      by_cases isList : c = '['
      · subst isList
        exact value_list_lasts (fun isList within => items_lasts fuel more isList enough within) read within
      rw [if_neg isList] at read ⊢
      by_cases isObject : c = '\x7b'
      · subst isObject
        exact value_object_lasts (fun isList within => members_lasts fuel more isList enough within) read within
      rw [if_neg isObject] at read ⊢
      by_cases isNull : c = 'n'
      · rw [if_pos isNull] at read ⊢
        obtain ⟨after, isWord, same⟩ := Option.map_eq_some_iff.mp read
        cases same
        rw [literal_more more isWord]
        rfl
      rw [if_neg isNull] at read ⊢
      by_cases isTrue : c = 't'
      · rw [if_pos isTrue] at read ⊢
        obtain ⟨after, isWord, same⟩ := Option.map_eq_some_iff.mp read
        cases same
        rw [literal_more more isWord]
        rfl
      rw [if_neg isTrue] at read ⊢
      by_cases isFalse : c = 'f'
      · rw [if_pos isFalse] at read ⊢
        obtain ⟨after, isWord, same⟩ := Option.map_eq_some_iff.mp read
        cases same
        rw [literal_more more isWord]
        rfl
      rw [if_neg isFalse] at read ⊢
      obtain ⟨⟨n, after⟩, isNumber, same⟩ := Option.map_eq_some_iff.mp read
      cases same
      have isThere : after ≠ [] := fun isEmpty => ended isEmpty n rfl
      rw [← List.cons_append, goesByFront_number?.onMore _ _ _ more isNumber isThere]
      rfl

theorem items_lasts (fuel : Nat) {fuel' depth depth' : Nat} {text rest : List Char} {list : List Json}
    (more : List Char) (read : Reader.items fuel depth text = some (list, rest)) (enough : fuel ≤ fuel')
    (within : itemsNesting list ≤ depth') :
    Reader.items fuel' depth' (text ++ more) = some (list, rest ++ more) := by
  match fuel, fuel' with
  | 0, _ => cases read
  | _ + 1, 0 => cases enough
  | fuel + 1, fuel' + 1 =>
    have enough := Nat.le_of_succ_le_succ enough
    obtain ⟨item, behind, isItem, ⟨closes, rfl⟩ | ⟨after, others, isComma, rfl, isRest⟩⟩ := items_inv read
    · rw [itemsNesting, itemsNesting, Nat.max_zero] at within
      have item := value_lasts fuel more isItem enough within fun isEmpty => absurd isEmpty (ne_nil_of_skip closes)
      rw [items_succ, item]
      simp only [skip_more more closes]
    · rw [itemsNesting, Nat.max_le] at within
      have item := value_lasts fuel more isItem enough within.1
        fun isEmpty => absurd isEmpty (ne_nil_of_skip isComma)
      have others := items_lasts fuel more isRest enough within.2
      rw [items_succ, item]
      simp only [skip_more more isComma, others, Option.map_some]

theorem members_lasts (fuel : Nat) {fuel' depth depth' : Nat} {text rest : List Char}
    {list : List (String × Json)} (more : List Char) (read : members fuel depth text = some (list, rest))
    (enough : fuel ≤ fuel') (within : membersNesting list ≤ depth') :
    members fuel' depth' (text ++ more) = some (list, rest ++ more) := by
  match fuel, fuel' with
  | 0, _ => cases read
  | _ + 1, 0 => cases enough
  | fuel + 1, fuel' + 1 =>
    have enough := Nat.le_of_succ_le_succ enough
    obtain ⟨opened, key, named, written, item, behind, isOpened, isKey, isNamed, isItem, others⟩ :=
      members_inv read
    have parts {behind : List Char} (isItem : value fuel' depth' (written ++ more) = some (item, behind)) :=
      members_of_parts (skip_more more isOpened) (stringRest_more more isKey) (skip_more more isNamed) isItem
    obtain ⟨closes, rfl⟩ | ⟨after, others, isComma, rfl, isRest⟩ := others
    · rw [membersNesting, membersNesting, Nat.max_zero] at within
      have item := value_lasts fuel more isItem enough within fun isEmpty => absurd isEmpty (ne_nil_of_skip closes)
      rw [parts item]
      simp only [skip_more more closes]
    · rw [membersNesting, Nat.max_le] at within
      have item := value_lasts fuel more isItem enough within.1
        fun isEmpty => absurd isEmpty (ne_nil_of_skip isComma)
      have others := members_lasts fuel more isRest enough within.2
      rw [parts item]
      simp only [skip_more more isComma, others, Option.map_some]

end

theorem skip_spaces {spaces : List Char} (isSpaces : ∀ c ∈ spaces, isSpace c = true) {c : Char}
    (isText : isSpace c = false) (text : List Char) : skip (spaces ++ c :: text) = c :: text := by
  rw [skip, List.dropWhile_append_of_pos isSpaces]
  exact List.dropWhile_cons_of_neg (by rw [isText]; exact Bool.false_ne_true)

end Reader

open Reader

def memberText (before name after text behind : List Char) : List Char :=
  '\x7b' :: (before ++ '"' :: (name ++ '"' :: (after ++ ':' :: (text ++ (behind ++ ['\x7d'])))))

/-- An object with one member is read if the member's value is read and leaves it a level to nest in. -/
theorem parse?_memberText {before after behind text : List Char} {key : String} {name : List Char} {v : Json}
    (isBefore : ∀ c ∈ before, isSpace c = true) (isAfter : ∀ c ∈ after, isSpace c = true)
    (isBehind : ∀ c ∈ behind, isSpace c = true)
    (isName : stringRest .plain [] (name ++ ['"']) = some (key, [])) (read : parse? (String.ofList text) = some v)
    (closed : ∀ n, v ≠ .number n) (within : nesting (.object [(key, v)]) ≤ maxDepth) :
    parse? (String.ofList (memberText before name after text behind)) = some (.object [(key, v)]) := by
  simp only [parse?, String.toList_ofList] at read ⊢
  split at read
  · next v' rest isValue =>
    obtain ⟨isEnd, same⟩ := Option.ite_none_right_eq_some.mp read
    obtain rfl := Option.some.inj same
    have ends : skip (rest ++ (behind ++ ['\x7d'])) = ['\x7d'] := by
      have isRest : ∀ c ∈ rest, isSpace c = true := List.dropWhile_eq_nil_iff.mp (List.isEmpty_iff.mp isEnd)
      rw [← List.append_assoc]
      refine skip_spaces (fun c member => ?_) rfl []
      rcases List.mem_append.mp member with inRest | inBehind
      · exact isRest c inRest
      · exact isBehind c inBehind
    have inner : nesting v' ≤ 126 := by
      rw [nesting, membersNesting, membersNesting, Nat.max_zero] at within
      exact Nat.le_of_succ_le_succ within
    have isLength : (memberText before name after text behind).length =
        before.length + name.length + after.length + text.length + behind.length + 5 := by
      simp only [memberText, List.length_cons, List.length_append, List.length_nil]
      omega
    obtain ⟨fuel, isFuel⟩ : ∃ fuel, 2 * (memberText before name after text behind).length + 1 = fuel + 2 :=
      ⟨_, (Nat.sub_add_cancel (by omega)).symm⟩
    have value : Reader.value fuel 126 (text ++ (behind ++ ['\x7d'])) = some (v', rest ++ (behind ++ ['\x7d'])) :=
      value_lasts _ _ isValue (by omega) inner fun _ => closed
    have named := stringRest_more (after ++ ':' :: (text ++ (behind ++ ['\x7d']))) isName
    rw [List.append_assoc, List.singleton_append, List.nil_append] at named
    have member : members (fuel + 1) 126
        ('"' :: (name ++ '"' :: (after ++ ':' :: (text ++ (behind ++ ['\x7d']))))) = some ([(key, v')], []) := by
      have opened (text : List Char) : skip ('"' :: text) = '"' :: text := rfl
      rw [members_of_parts (opened _) named (skip_spaces isAfter rfl _) value, ends]
      rfl
    rw [isFuel, memberText, show maxDepth = 126 + 1 from rfl,
      value_object_of_members (skip_spaces isBefore rfl _) (by decide), member]
    rfl
  · cases read

end Json
end WireContract

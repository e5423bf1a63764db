import WireContract.Json.Reader
import WireContract.Proofs.NumberTexts

namespace WireContract
namespace Json
namespace Reader

open FloatLayout

def Stops (rest : List Char) : Prop := ∀ c ∈ rest.head?, isNumeral c = false ∧ c ≠ 'E'

theorem stops_nil : Stops [] := nofun

theorem stops_cons {c : Char} {rest : List Char} (notNumeral : isNumeral c = false) (notLarge : c ≠ 'E') :
    Stops (c :: rest) := by
  rintro _ ⟨⟩
  exact ⟨notNumeral, notLarge⟩

theorem isDigit_eq (c : Char) : Decimal.isDigit c = c.isDigit := by
  rw [Decimal.isDigit, Char.isDigit]
  rfl

theorem digits_append {whole rest : List Char} (isWhole : whole.all Char.isDigit = true)
    (stops : ∀ c ∈ rest.head?, c.isDigit = false) : digits (whole ++ rest) = (whole, rest) := by
  have isDigits : ∀ c ∈ whole, Decimal.isDigit c = true := fun c member =>
    (isDigit_eq c).trans (List.all_eq_true.mp isWhole c member)
  have ends : rest.takeWhile Decimal.isDigit = [] ∧ rest.dropWhile Decimal.isDigit = rest := by
    cases rest with
    | nil => exact ⟨rfl, rfl⟩
    | cons c rest =>
      have notDigit : ¬ Decimal.isDigit c = true := by
        rw [isDigit_eq, stops c rfl]
        exact Bool.false_ne_true
      exact ⟨List.takeWhile_cons_of_neg notDigit, List.dropWhile_cons_of_neg notDigit⟩
  rw [digits, List.takeWhile_append_of_pos isDigits, List.dropWhile_append_of_pos isDigits, ends.1, ends.2,
    List.append_nil]

/-- The parts of the text of a number without its sign. -/
structure Numeral where
  whole : List Char
  places : Option (List Char)
  /-- the sign of the exponent, and its size -/
  power : Option (List Char × List Char)

namespace Numeral

def fractionText (numeral : Numeral) : List Char :=
  match numeral.places with
  | none => []
  | some places => '.' :: places

def powerText (numeral : Numeral) : List Char :=
  match numeral.power with
  | none => []
  | some (sign, size) => 'e' :: (sign ++ size)

def text (numeral : Numeral) : List Char :=
  numeral.whole ++ (numeral.fractionText ++ numeral.powerText)

structure Valid (numeral : Numeral) : Prop where
  whole : numeral.whole.all Char.isDigit = true ∧ numeral.whole ≠ []
  places : ∀ places ∈ numeral.places, places.all Char.isDigit = true ∧ places ≠ []
  power : ∀ power ∈ numeral.power,
    (power.1 = [] ∨ power.1 = ['-'] ∨ power.1 = ['+']) ∧ power.2.all Char.isDigit = true ∧ power.2 ≠ []

theorem notDigit_of_stops {rest : List Char} (stops : Stops rest) : ∀ c ∈ rest.head?, c.isDigit = false := by
  intro c isHead
  refine Bool.eq_false_iff.mpr fun isDigit => ?_
  have notNumeral := (stops c isHead).1
  rw [isNumeral, isPlace, isDigit] at notNumeral
  cases notNumeral

theorem head_powerText_append (numeral : Numeral) {rest : List Char} (stops : Stops rest) :
    ∀ c ∈ (numeral.powerText ++ rest).head?, c.isDigit = false ∧ c ≠ '.' := by
  rw [powerText]
  cases numeral.power with
  | some power =>
    rintro _ ⟨⟩
    exact ⟨rfl, by decide⟩
  | none =>
    intro c isHead
    refine ⟨notDigit_of_stops stops c isHead, ?_⟩
    rintro rfl
    exact Bool.false_ne_true (stops '.' isHead).1.symm

theorem head_fractionText_append (numeral : Numeral) {rest : List Char} (stops : Stops rest) :
    ∀ c ∈ (numeral.fractionText ++ (numeral.powerText ++ rest)).head?, c.isDigit = false := by
  rw [fractionText]
  cases numeral.places with
  | some places =>
    rintro _ ⟨⟩
    rfl
  | none => exact fun c isHead => (numeral.head_powerText_append stops c isHead).1

theorem fraction?_append {numeral : Numeral} (valid : numeral.Valid) {rest : List Char} (stops : Stops rest) :
    fraction? (numeral.fractionText ++ (numeral.powerText ++ rest)) =
      some (numeral.places, numeral.powerText ++ rest) := by
  have behind := numeral.head_powerText_append stops
  rw [fractionText]
  cases isPlaces : numeral.places with
  | none =>
    show fraction? (numeral.powerText ++ rest) = _
    generalize numeral.powerText ++ rest = text at behind
    unfold fraction?
    split
    · exact absurd rfl (behind '.' rfl).2
    · rfl
  | some places =>
    obtain ⟨isDigits, isThere⟩ := valid.places places isPlaces
    have read := digits_append isDigits fun c isHead => (behind c isHead).1
    simp only [List.cons_append, fraction?, read, List.isEmpty_eq_false_iff.mpr isThere]
    rfl

def exponent (numeral : Numeral) : Option Int :=
  numeral.power.map fun (sign, size) =>
    if sign = ['-'] then -(Decimal.natOfDigits size : Int) else Decimal.natOfDigits size

theorem exponent?_append {numeral : Numeral} (valid : numeral.Valid) {rest : List Char} (stops : Stops rest) :
    exponent? (numeral.powerText ++ rest) = some (numeral.exponent, rest) := by
  rw [powerText, exponent]
  cases isPower : numeral.power with
  | none =>
    cases rest with
    | nil => rfl
    | cons c rest =>
      obtain ⟨notNumeral, notLarge⟩ := stops c rfl
      have notSmall : c ≠ 'e' := by
        rintro rfl
        exact Bool.false_ne_true notNumeral.symm
      exact if_neg (not_or.mpr ⟨notSmall, notLarge⟩)
  | some power =>
    obtain ⟨sign, size⟩ := power
    obtain ⟨isSign, isDigits, isThere⟩ := valid.power _ isPower
    have read := digits_append isDigits (notDigit_of_stops stops)
    have notEmpty := List.isEmpty_eq_false_iff.mpr isThere
    rcases isSign with rfl | rfl | rfl
    · -- a digit is no sign
      match size, isDigits with
      | digit :: size, isDigits =>
        have isDigit : digit.isDigit = true := (Bool.and_eq_true_iff.mp isDigits).1
        have noMinus : digit ≠ '-' := Text.ne_of_isDigit isDigit rfl
        have noPlus : digit ≠ '+' := Text.ne_of_isDigit isDigit rfl
        show exponent? ('e' :: digit :: (size ++ rest)) = _
        rw [List.cons_append] at read
        simp [exponent?, noMinus, noPlus, read]
    · show exponent? ('e' :: '-' :: (size ++ rest)) = _
      simp [exponent?, read, notEmpty]
    · show exponent? ('e' :: '+' :: (size ++ rest)) = _
      simp [exponent?, read, notEmpty]

def value? (numeral : Numeral) (negative : Bool) : Option Number :=
  match numeral.whole with
  | [] => none
  | '0' :: _ :: _ => none
  | _ =>
    match numeral.places, numeral.exponent with
    | none, none => integerOf? negative numeral.whole
    | _, _ => floatOf? negative numeral.whole (numeral.places.getD []) (numeral.exponent.getD 0)

theorem Valid.text_append_eq_cons {numeral : Numeral} (valid : numeral.Valid) (rest : List Char) :
    ∃ digit others, numeral.text ++ rest = digit :: others ∧ digit.isDigit = true := by
  obtain ⟨isDigits, isThere⟩ := valid.whole
  obtain ⟨digit, others, isWhole⟩ := List.exists_cons_of_ne_nil isThere
  rw [isWhole, List.all_cons, Bool.and_eq_true] at isDigits
  exact ⟨digit, others ++ (numeral.fractionText ++ (numeral.powerText ++ rest)), by simp [text, isWhole],
    isDigits.1⟩

theorem number?_signed (negative : Bool) {text : List Char} (noMinus : text.head? ≠ some '-') :
    number? ((if negative then ['-'] else []) ++ text) =
      match (digits text).1 with
      | [] => none
      | '0' :: _ :: _ => none
      | _ =>
        match fraction? (digits text).2 with
        | none => none
        | some (places, rest) =>
          match exponent? rest with
          | none => none
          | some (power, rest) =>
            let number := match places, power with
              | none, none => integerOf? negative (digits text).1
              | _, _ => floatOf? negative (digits text).1 (places.getD []) (power.getD 0)
            number.map (·, rest) := by
  cases negative with
  | true => rfl
  | false =>
    cases text with
    | nil => rfl
    | cons c text =>
      have notMinus : c ≠ '-' := fun same => noMinus (same ▸ rfl)
      show number? (c :: text) = _
      unfold number?
      split
      next negative unsigned isSigned =>
        split at isSigned
        · next isMinus => exact absurd (List.cons.inj isMinus).1 notMinus
        · obtain ⟨rfl, rfl⟩ := Prod.mk.inj isSigned
          rfl

theorem number?_append {numeral : Numeral} (valid : numeral.Valid) (negative : Bool) {rest : List Char}
    (stops : Stops rest) :
    number? ((if negative then ['-'] else []) ++ (numeral.text ++ rest)) =
      (numeral.value? negative).map (·, rest) := by
  have whole : digits (numeral.text ++ rest) =
      (numeral.whole, numeral.fractionText ++ (numeral.powerText ++ rest)) := by
    rw [text, List.append_assoc, List.append_assoc]
    exact digits_append valid.whole.1 (numeral.head_fractionText_append stops)
  have noMinus : (numeral.text ++ rest).head? ≠ some '-' := by
    obtain ⟨digit, others, isText, isDigit⟩ := valid.text_append_eq_cons rest
    rw [isText, List.head?_cons]
    intro same
    exact Text.ne_of_isDigit isDigit rfl (Option.some.inj same)
  rw [number?_signed negative noMinus, whole]
  simp only [fraction?_append valid stops, exponent?_append valid stops, value?]
  split <;> rfl

theorem valid_digitText (n : Nat) : Valid ⟨digitText n, none, none⟩ where
  whole := ⟨all_isDigit_digitText n, Nat.toDigits_ne_nil⟩
  places := nofun
  power := nofun

theorem exists_digitText (n : Nat) : ∃ numeral : Numeral, numeral.Valid ∧ digitText n = numeral.text :=
  ⟨⟨digitText n, none, none⟩, valid_digitText n, (List.append_nil _).symm⟩

theorem exists_positional {digits : List Char} (isDigits : digits.all Char.isDigit = true)
    (isThere : digits ≠ []) (leading : Int) :
    ∃ numeral : Numeral, numeral.Valid ∧ positional digits leading = numeral.text := by
  have parted (whole places : List Char) (isWhole : whole.all Char.isDigit = true ∧ whole ≠ [])
      (isPlaces : places.all Char.isDigit = true ∧ places ≠ []) :
      ∃ numeral : Numeral, numeral.Valid ∧ whole ++ '.' :: places = numeral.text := by
    refine ⟨⟨whole, some places, none⟩, ⟨isWhole, ?_, nofun⟩, by simp [text, fractionText, powerText]⟩
    rintro _ ⟨⟩
    exact isPlaces
  have zeros (count : Nat) : (List.replicate count '0').all Char.isDigit = true :=
    List.all_eq_true.mpr fun c member => by rw [List.eq_of_mem_replicate member]; rfl
  have part {part : List Char} (isPart : ∀ c ∈ part, c ∈ digits) : part.all Char.isDigit = true :=
    List.all_eq_true.mpr fun c member => List.all_eq_true.mp isDigits c (isPart c member)
  unfold positional
  split
  · exact parted ['0'] _ ⟨rfl, List.cons_ne_nil _ _⟩
      ⟨by rw [List.all_append, zeros, isDigits]; rfl, by simp [isThere]⟩
  · dsimp only
    split
    · exact parted _ ['0'] ⟨by rw [List.all_append, isDigits, zeros]; rfl, by simp [isThere]⟩
        ⟨rfl, List.cons_ne_nil _ _⟩
    · next longer =>
      refine parted _ _ ⟨part fun c => List.mem_of_mem_take, ?_⟩ ⟨part fun c => List.mem_of_mem_drop, ?_⟩
      · simp [isThere]
      · simp at longer ⊢
        omega

theorem exists_scientific (layout : FloatLayout) {digits : List Char}
    (isDigits : digits.all Char.isDigit = true) (isThere : digits ≠ []) (leading : Int) :
    ∃ numeral : Numeral, numeral.Valid ∧ layout.scientific digits leading = numeral.text := by
  have isSign : layout.exponentSign leading = [] ∨ layout.exponentSign leading = ['-'] ∨
      layout.exponentSign leading = ['+'] := by
    unfold exponentSign
    split
    · exact .inr (.inl rfl)
    · split
      · exact .inr (.inr rfl)
      · exact .inl rfl
  have isPower : ∀ power ∈ some (layout.exponentSign leading, digitText leading.natAbs),
      (power.1 = [] ∨ power.1 = ['-'] ∨ power.1 = ['+']) ∧ power.2.all Char.isDigit = true ∧
        power.2 ≠ [] := by
    rintro _ ⟨⟩
    exact ⟨isSign, all_isDigit_digitText _, Nat.toDigits_ne_nil⟩
  match digits, isDigits with
  | [digit], isDigits =>
    exact ⟨⟨[digit], none, some (layout.exponentSign leading, digitText leading.natAbs)⟩,
      ⟨⟨isDigits, isThere⟩, nofun, isPower⟩, rfl⟩
  | digit :: second :: rest, isDigits =>
    rw [List.all_cons, Bool.and_eq_true] at isDigits
    refine ⟨⟨[digit], some (second :: rest), some (layout.exponentSign leading, digitText leading.natAbs)⟩,
      ⟨⟨?_, List.cons_ne_nil _ _⟩, ?_, isPower⟩, rfl⟩
    · rw [List.all_cons, isDigits.1]
      rfl
    · rintro _ ⟨⟩
      exact ⟨isDigits.2, List.cons_ne_nil _ _⟩

theorem exists_written (layout : FloatLayout) {digits : List Char}
    (isDigits : digits.all Char.isDigit = true) (isThere : digits ≠ []) (leading : Int) :
    ∃ numeral : Numeral, numeral.Valid ∧ layout.written digits leading = numeral.text := by
  unfold written
  split
  · exact exists_positional isDigits isThere leading
  · exact exists_scientific layout isDigits isThere leading

end Numeral

theorem value_of_numeral {c : Char} (isHead : c.isDigit = true ∨ c = '-') (fuel depth : Nat)
    (rest : List Char) :
    value (fuel + 1) depth (c :: rest) =
      (number? (c :: rest)).map fun (n, rest) => (.number n, rest) := by
  have differs {d : Char} (notDigit : d.isDigit = false) (noMinus : '-' ≠ d) : c ≠ d := by
    rcases isHead with isDigit | rfl
    · exact Text.ne_of_isDigit isDigit notDigit
    · exact noMinus
  have noBlank : ¬ isSpace c = true := by
    simp [isSpace, differs (d := ' ') rfl (by decide), differs (d := '\t') rfl (by decide),
      differs (d := '\n') rfl (by decide), differs (d := '\r') rfl (by decide)]
  have skipped : skip (c :: rest) = c :: rest := List.dropWhile_cons_of_neg noBlank
  rw [value, skipped]
  dsimp only
  rw [if_neg (differs rfl (by decide)), if_neg (differs rfl (by decide)), if_neg (differs rfl (by decide)),
    if_neg (differs rfl (by decide)), if_neg (differs rfl (by decide)), if_neg (differs rfl (by decide))]

theorem value_numeral {numeral : Numeral} (valid : numeral.Valid) (negative : Bool) (fuel depth : Nat)
    {rest : List Char} (stops : Stops rest) :
    value (fuel + 1) depth ((if negative then ['-'] else []) ++ (numeral.text ++ rest)) =
      ((numeral.value? negative).map Json.number).map (·, rest) := by
  have read := Numeral.number?_append valid negative stops
  have byNumber : value (fuel + 1) depth ((if negative then ['-'] else []) ++ (numeral.text ++ rest)) =
      (number? ((if negative then ['-'] else []) ++ (numeral.text ++ rest))).map
        fun (n, rest) => (.number n, rest) := by
    cases negative with
    | true => exact value_of_numeral (.inr rfl) fuel depth _
    | false =>
      obtain ⟨digit, others, isText, isDigit⟩ := valid.text_append_eq_cons rest
      show value (fuel + 1) depth (numeral.text ++ rest) = (number? (numeral.text ++ rest)).map _
      rw [isText]
      exact value_of_numeral (.inl isDigit) fuel depth _
  rw [byNumber, read, Option.map_map, Option.map_map]
  rfl

theorem toList_natural (n : Nat) : (toString n).toList = digitText n := by
  rw [Nat.toString_eq_repr, Nat.toList_repr]
  rfl

/-- What the text of a number is read as does not depend on what follows it. -/
theorem value_number (n : Number) :
    ∃ result : Option Json, ∀ fuel depth rest, Stops rest →
      value (fuel + 1) depth (n.text.toList ++ rest) = result.map (·, rest) := by
  have numeral (negative : Bool) {text : List Char} (isText : n.text.toList =
      (if negative then ['-'] else []) ++ text)
      (isNumeral : ∃ numeral : Numeral, numeral.Valid ∧ text = numeral.text) :
      ∃ result : Option Json, ∀ fuel depth rest, Stops rest →
        value (fuel + 1) depth (n.text.toList ++ rest) = result.map (·, rest) := by
    obtain ⟨numeral, valid, rfl⟩ := isNumeral
    refine ⟨(numeral.value? negative).map Json.number, fun fuel depth rest stops => ?_⟩
    rw [isText, List.append_assoc]
    exact value_numeral valid negative fuel depth stops
  cases n with
  | integer n =>
    cases n with
    | ofNat n => exact numeral false (toList_natural n) (Numeral.exists_digitText n)
    | negSucc n =>
      have isText : (Number.integer (.negSucc n)).text.toList = '-' :: digitText (n + 1) := by
        rw [← toList_natural]
        exact String.toList_append
      exact numeral true isText (Numeral.exists_digitText (n + 1))
  | float x =>
    cases isFinite : x.isFinite with
    | true =>
      obtain ⟨isDigits, isThere⟩ := places_digits x
      have isText : (Number.float x).text.toList =
          sign x ++ interchange.written (places x).1 (places x).2 := by
        rw [Number.text, interchange_text_eq isFinite, String.toList_ofList]
      have written := Numeral.exists_written interchange isDigits isThere (places x).2
      rcases sign_eq x with isSign | isSign
      · exact numeral true (by rw [isText, isSign]; rfl) written
      · exact numeral false (by rw [isText, isSign]; rfl) written
    | false =>
      rcases text_of_not_isFinite isFinite interchange with isText | isText
      · refine ⟨some .null, fun fuel depth rest stops => ?_⟩
        rw [Number.text, isText]
        rfl
      · rcases sign_eq x with isSign | isSign
        · refine ⟨none, fun fuel depth rest stops => ?_⟩
          rw [Number.text, isText, isSign]
          rfl
        · refine ⟨some .null, fun fuel depth rest stops => ?_⟩
          rw [Number.text, isText, isSign]
          rfl

theorem head_number (n : Number) :
    ∃ c later, n.text.toList = c :: later ∧ (c.isDigit = true ∨ c = '-' ∨ c = 'n') := by
  have digits (n : Nat) : ∃ c later, digitText n = c :: later ∧ c.isDigit = true := by
    match isText : digitText n, all_isDigit_digitText n with
    | [], _ => exact absurd isText Nat.toDigits_ne_nil
    | c :: later, isDigits => exact ⟨c, later, rfl, (Bool.and_eq_true_iff.mp isDigits).1⟩
  have minus (text : List Char) : ∃ c later, ['-'] ++ text = c :: later ∧
      (c.isDigit = true ∨ c = '-' ∨ c = 'n') := ⟨'-', text, rfl, .inr (.inl rfl)⟩
  cases n with
  | integer n =>
    cases n with
    | ofNat n =>
      obtain ⟨c, later, isText, isDigit⟩ := digits n
      exact ⟨c, later, (toList_natural n).trans isText, .inl isDigit⟩
    | negSucc n =>
      have isText : (Number.integer (.negSucc n)).text.toList = ['-'] ++ (toString (n + 1)).toList :=
        String.toList_append
      rw [isText]
      exact minus _
  | float x =>
    cases isFinite : x.isFinite with
    | true =>
      obtain ⟨isDigits, isThere⟩ := places_digits x
      rw [Number.text, interchange_text_eq isFinite, String.toList_ofList]
      obtain ⟨c, later, isText, isDigit⟩ := written_eq_cons interchange isDigits isThere (places x).2
      rcases sign_eq x with isSign | isSign <;> rw [isSign]
      · exact minus _
      · exact ⟨c, later, isText, .inl isDigit⟩
    | false =>
      rcases text_of_not_isFinite isFinite interchange with isText | isText <;> rw [Number.text, isText]
      · exact ⟨'n', _, rfl, .inr (.inr rfl)⟩
      · rw [String.toList_ofList]
        rcases sign_eq x with isSign | isSign <;> rw [isSign]
        · exact minus _
        · exact ⟨'n', _, rfl, .inr (.inr rfl)⟩

end Reader
end Json
end WireContract

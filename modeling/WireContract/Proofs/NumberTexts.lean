import WireContract.Proofs.QuotedTexts
import WireContract.Json.Writer

/-!
The texts of numbers. Debug texts and data files spell a double differently, but two doubles that one of
them spells alike are spelt alike by the other. Main statement: `pretty_ofFloat_of_debug`.
-/

namespace WireContract

namespace Text

theorem ne_of_isDigit {c d : Char} (isDigit : c.isDigit = true) (notDigit : d.isDigit = false) : c ≠ d := by
  rintro rfl
  rw [isDigit] at notDigit
  cases notDigit

end Text

namespace Decimal

theorem isFinite_iff (x : Float) :
    x.isFinite = true ↔
      x.isNaN = false ∧ x.toBits.toNat % Nat.pow 2 63 ≠ 2047 * Nat.pow 2 52 := by
  have general (bits : BitVec 64) :
      (Float.Model.UnpackedFloat.unpack .binary64 bits).isFinite = true ↔
        (Float.Model.UnpackedFloat.unpack .binary64 bits).isNaN = false ∧
          bits.toNat % 2 ^ 63 ≠ 2047 * 2 ^ 52 := by
    have exponent : (@Float.Model.UnpackedFloat.unpackExponent .binary64 bits).toNat =
        bits.toNat / 2 ^ 52 % 2 ^ 11 := by
      simp [Float.Model.UnpackedFloat.unpackExponent, BitVec.extractLsb, BitVec.extractLsb',
        Nat.shiftRight_eq_div_pow]
    have mantissa : (@Float.Model.UnpackedFloat.unpackMantissa .binary64 bits).toNat =
        bits.toNat % 2 ^ 52 := by
      simp [Float.Model.UnpackedFloat.unpackMantissa, BitVec.extractLsb, BitVec.extractLsb']
    have isTop : @Float.Model.UnpackedFloat.unpackExponent .binary64 bits = -1#11 ↔
        bits.toNat / 2 ^ 52 % 2 ^ 11 = 2047 := by
      rw [← BitVec.toNat_inj, exponent]
      rfl
    have isZero : @Float.Model.UnpackedFloat.unpackMantissa .binary64 bits = 0#52 ↔
        bits.toNat % 2 ^ 52 = 0 := by
      rw [← BitVec.toNat_inj, mantissa]
      rfl
    unfold Float.Model.UnpackedFloat.unpack
    dsimp only
    by_cases top : @Float.Model.UnpackedFloat.unpackExponent .binary64 bits = -1#11
    · rw [if_pos top]
      have isTop := isTop.mp top
      by_cases zero : @Float.Model.UnpackedFloat.unpackMantissa .binary64 bits = 0#52
      · rw [if_pos zero]
        have isZero := isZero.mp zero
        refine iff_of_false Bool.false_ne_true fun finite => finite.2 ?_
        omega
      · rw [if_neg zero]
        exact iff_of_false Bool.false_ne_true fun finite => Bool.false_ne_true finite.1.symm
    · rw [if_neg top]
      have isBelow := mt isTop.mpr top
      have differs : bits.toNat % 2 ^ 63 ≠ 2047 * 2 ^ 52 := by omega
      by_cases low : @Float.Model.UnpackedFloat.unpackExponent .binary64 bits = 0#11
      · rw [if_pos low]
        by_cases zero : @Float.Model.UnpackedFloat.unpackMantissa .binary64 bits = 0#52
        · rw [dif_pos zero]
          exact iff_of_true rfl ⟨rfl, differs⟩
        · rw [dif_neg zero]
          exact iff_of_true rfl ⟨rfl, differs⟩
      · rw [if_neg low]
        exact iff_of_true rfl ⟨rfl, differs⟩
  exact general x.toBits.toBitVec

end Decimal

namespace FloatLayout

def isPlace (c : Char) : Bool := c.isDigit || c == '.'

def isNumeral (c : Char) : Bool := isPlace c || c == 'e' || c == '-' || c == '+'

theorem isNumeral_of_isPlace {c : Char} (isThere : isPlace c = true) : isNumeral c = true := by
  rw [isNumeral, isThere]
  rfl

theorem all_isDigit_digitText (n : Nat) : (digitText n).all Char.isDigit = true :=
  List.all_eq_true.mpr fun _ member => Nat.isDigit_of_mem_toDigits (by decide) (by decide) member

theorem all_isPlace_of_isDigit {digits : List Char} (isDigits : digits.all Char.isDigit = true) :
    digits.all isPlace = true := by
  refine List.all_eq_true.mpr fun c member => ?_
  rw [isPlace, List.all_eq_true.mp isDigits c member]
  rfl

theorem all_isPlace_positional {digits : List Char} (isDigits : digits.all Char.isDigit = true)
    (leading : Int) : (positional digits leading).all isPlace = true := by
  have places := all_isPlace_of_isDigit isDigits
  have zeros (count : Nat) : (List.replicate count '0').all isPlace = true :=
    List.all_eq_true.mpr fun c member => by rw [List.eq_of_mem_replicate member]; rfl
  unfold positional
  split
  · simp [zeros, places, isPlace]
  · dsimp only
    split
    · simp [zeros, places, isPlace]
    · have kept (count : Nat) : (digits.take count).all isPlace = true :=
        List.all_eq_true.mpr fun c member =>
          List.all_eq_true.mp places c (List.mem_of_mem_take member)
      have dropped (count : Nat) : (digits.drop count).all isPlace = true :=
        List.all_eq_true.mpr fun c member =>
          List.all_eq_true.mp places c (List.mem_of_mem_drop member)
      rw [List.all_append, List.all_cons, kept, dropped]
      rfl

def mantissa (digits : List Char) : List Char :=
  match digits with
  | [] => ['0']
  | [digit] => [digit]
  | digit :: rest => digit :: '.' :: rest

def exponentSign (layout : FloatLayout) (leading : Int) : List Char :=
  if leading < 0 then ['-'] else if layout.plusSign then ['+'] else []

theorem scientific_eq (layout : FloatLayout) (digits : List Char) (leading : Int) :
    layout.scientific digits leading =
      mantissa digits ++ 'e' :: (layout.exponentSign leading ++ digitText leading.natAbs) := rfl

theorem all_isPlace_mantissa {digits : List Char} (isDigits : digits.all Char.isDigit = true) :
    (mantissa digits).all isPlace = true := by
  have places := all_isPlace_of_isDigit isDigits
  match digits, places with
  | [], _ => rfl
  | [_], places => exact places
  | digit :: second :: rest, places =>
    rw [List.all_cons, Bool.and_eq_true] at places
    rw [mantissa, List.all_cons, List.all_cons, places.1, places.2]
    · rfl
    · exact nofun

theorem mantissa_inj {digits others : List Char} (isThere : digits ≠ []) (otherIsThere : others ≠ [])
    (same : mantissa digits = mantissa others) : digits = others := by
  match digits, others, isThere, otherIsThere, same with
  | [_], [_], _, _, same => exact same
  | [_], _ :: _ :: _, _, _, same => cases same
  | _ :: _ :: _, [_], _, _, same => cases same
  | digit :: second :: rest, other :: otherSecond :: otherRest, _, _, same =>
    rw [mantissa, mantissa] at same
    · obtain ⟨rfl, later⟩ := List.cons.inj same
      exact congrArg _ (List.cons.inj later).2
    · exact nofun
    · exact nofun

/-- The text of some digits of which the first has the weight `10 ^ leading`. -/
def written (layout : FloatLayout) (digits : List Char) (leading : Int) : List Char :=
  if layout.leastPositional ≤ leading ∧ leading ≤ layout.greatestPositional then positional digits leading
  else layout.scientific digits leading

def places (x : Float) : List Char × Int :=
  let rest := x.toBits.toNat % Nat.pow 2 63
  if rest = 0 then (['0'], 0)
  else
    let shortest := (Decimal.Binary.ofBits rest).shortest
    (digitText shortest.digits, shortest.exponent + ((digitText shortest.digits).length : Int) - 1)

def sign (x : Float) : List Char := if Nat.pow 2 63 ≤ x.toBits.toNat then ['-'] else []

theorem text_of_isFinite {x : Float} (finite : x.isFinite = true) {layout : FloatLayout}
    (least : layout.leastPositional ≤ 0) (greatest : 0 ≤ layout.greatestPositional) :
    layout.text x = String.ofList (sign x ++ layout.written (places x).1 (places x).2) := by
  obtain ⟨isNumber, notInfinite⟩ := (Decimal.isFinite_iff x).mp finite
  unfold text
  dsimp only
  rw [isNumber, if_neg Bool.false_ne_true, if_neg notInfinite, places]
  dsimp only
  split
  · have positionally : layout.written ['0'] 0 = ['0', '.', '0'] := if_pos ⟨least, greatest⟩
    rw [positionally]
    rfl
  · rfl

theorem places_digits (x : Float) : (places x).1.all Char.isDigit = true ∧ (places x).1 ≠ [] := by
  unfold places
  dsimp only
  split
  · exact ⟨rfl, List.cons_ne_nil _ _⟩
  · exact ⟨all_isDigit_digitText _, Nat.toDigits_ne_nil⟩

theorem written_eq_cons (layout : FloatLayout) {digits : List Char}
    (isDigits : digits.all Char.isDigit = true)
    (isThere : digits ≠ []) (leading : Int) :
    ∃ c rest, layout.written digits leading = c :: rest ∧ c.isDigit = true := by
  match digits, isThere with
  | digit :: digits, _ =>
    have isDigit : digit.isDigit = true := (Bool.and_eq_true_iff.mp isDigits).1
    unfold written
    split
    · unfold positional
      split
      · exact ⟨'0', _, rfl, rfl⟩
      · dsimp only
        split
        · exact ⟨digit, _, rfl, isDigit⟩
        · rw [List.take_succ_cons]
          exact ⟨digit, _, rfl, isDigit⟩
    · rw [scientific_eq]
      cases digits with
      | nil => exact ⟨digit, _, rfl, isDigit⟩
      | cons second rest => exact ⟨digit, _, rfl, isDigit⟩

theorem digitText_inj {m n : Nat} (same : digitText m = digitText n) : m = n := by
  have values := congrArg (Nat.ofDigitChars 10 · 0) same
  simpa [digitText, Nat.ofDigitChars_ten_toDigits] using values

theorem power_inj {leading otherLeading : Int}
    (same : debug.exponentSign leading ++ digitText leading.natAbs =
      debug.exponentSign otherLeading ++ digitText otherLeading.natAbs) : leading = otherLeading := by
  have noSign (n : Nat) (rest : List Char) : '-' :: rest ≠ digitText n := by
    intro same
    have isDigit := List.all_eq_true.mp (all_isDigit_digitText n) '-' (same ▸ .head _)
    exact Bool.false_ne_true isDigit
  have negative {leading : Int} (below : leading < 0) : debug.exponentSign leading = ['-'] := if_pos below
  have positive {leading : Int} (notBelow : ¬ leading < 0) : debug.exponentSign leading = [] :=
    (if_neg notBelow).trans rfl
  by_cases below : leading < 0 <;> by_cases otherBelow : otherLeading < 0
  · rw [negative below, negative otherBelow] at same
    have sizes := digitText_inj (List.cons.inj same).2
    omega
  · rw [negative below, positive otherBelow] at same
    exact absurd same (noSign _ _)
  · rw [positive below, negative otherBelow] at same
    exact absurd same.symm (noSign _ _)
  · rw [positive below, positive otherBelow] at same
    have sizes := digitText_inj same
    omega

/-- Digits that a debug text spells alike are spelt alike in data files: the two layouts write the same
exponents positionally but for one, and a debug text in scientific form shows every digit. -/
theorem written_interchange_of_debug {digits others : List Char} {leading otherLeading : Int}
    (isDigits : digits.all Char.isDigit = true) (isThere : digits ≠ [])
    (otherIsDigits : others.all Char.isDigit = true) (otherIsThere : others ≠ [])
    (same : debug.written digits leading = debug.written others otherLeading) :
    interchange.written digits leading = interchange.written others otherLeading := by
  have noMark {text : List Char} (places : text.all isPlace = true) : 'e' ∉ text :=
    fun member => Bool.false_ne_true (List.all_eq_true.mp places 'e' member)
  have positionally {digits : List Char} {leading : Int} (inside : -4 ≤ leading ∧ leading ≤ 15) :
      debug.written digits leading = positional digits leading ∧
        interchange.written digits leading = positional digits leading :=
    ⟨if_pos inside, if_pos ⟨by have := inside.1; show (-5 : Int) ≤ leading; omega, inside.2⟩⟩
  have scientifically {digits : List Char} {leading : Int} (outside : ¬(-4 ≤ leading ∧ leading ≤ 15)) :
      debug.written digits leading =
        mantissa digits ++ 'e' :: (debug.exponentSign leading ++ digitText leading.natAbs) :=
    (if_neg outside).trans (scientific_eq ..)
  by_cases inside : -4 ≤ leading ∧ leading ≤ 15 <;>
    by_cases otherInside : -4 ≤ otherLeading ∧ otherLeading ≤ 15
  · rw [(positionally inside).2, (positionally otherInside).2, ← (positionally inside).1, same,
      (positionally otherInside).1]
  · rw [(positionally inside).1, scientifically otherInside] at same
    refine absurd ?_ (noMark (all_isPlace_positional isDigits leading))
    rw [same]
    exact List.mem_append_right _ (.head _)
  · rw [(positionally otherInside).1, scientifically inside] at same
    refine absurd ?_ (noMark (all_isPlace_positional otherIsDigits otherLeading))
    rw [← same]
    exact List.mem_append_right _ (.head _)
  · rw [scientifically inside, scientifically otherInside] at same
    obtain ⟨mantissas, powers⟩ := Text.append_mark_inj (noMark (all_isPlace_mantissa isDigits))
      (noMark (all_isPlace_mantissa otherIsDigits)) same
    obtain rfl := mantissa_inj isThere otherIsThere mantissas
    obtain rfl := power_inj powers
    rfl

theorem sign_eq (x : Float) : sign x = ['-'] ∨ sign x = [] := by
  unfold sign
  split
  · exact .inl rfl
  · exact .inr rfl

theorem sign_append_inj {x y : Float} {layout : FloatLayout} {digits others : List Char}
    {leading otherLeading : Int} (isDigits : digits.all Char.isDigit = true) (isThere : digits ≠ [])
    (otherIsDigits : others.all Char.isDigit = true) (otherIsThere : others ≠ [])
    (same : sign x ++ layout.written digits leading = sign y ++ layout.written others otherLeading) :
    sign x = sign y ∧ layout.written digits leading = layout.written others otherLeading := by
  obtain ⟨c, rest, text, isDigit⟩ := written_eq_cons layout isDigits isThere leading
  obtain ⟨d, other, otherText, otherIsDigit⟩ :=
    written_eq_cons layout otherIsDigits otherIsThere otherLeading
  have noSign {c : Char} (isDigit : c.isDigit = true) : c ≠ '-' := Text.ne_of_isDigit isDigit rfl
  rw [text, otherText] at same ⊢
  rcases sign_eq x with isSign | isSign <;> rcases sign_eq y with otherIsSign | otherIsSign <;>
    rw [isSign, otherIsSign] at same ⊢
  · exact ⟨rfl, (List.cons.inj same).2⟩
  · exact absurd (List.cons.inj same).1.symm (noSign otherIsDigit)
  · exact absurd (List.cons.inj same).1 (noSign isDigit)
  · exact ⟨rfl, same⟩

theorem debug_text_eq {x : Float} (isFinite : x.isFinite = true) :
    debug.text x = String.ofList (sign x ++ debug.written (places x).1 (places x).2) :=
  text_of_isFinite isFinite (by decide) (by decide)

theorem interchange_text_eq {x : Float} (isFinite : x.isFinite = true) :
    interchange.text x = String.ofList (sign x ++ interchange.written (places x).1 (places x).2) :=
  text_of_isFinite isFinite (by decide) (by decide)

theorem interchange_of_debug {x y : Float} (isFinite : x.isFinite = true) (otherIsFinite : y.isFinite = true)
    (same : debug.text x = debug.text y) : interchange.text x = interchange.text y := by
  obtain ⟨isDigits, isThere⟩ := places_digits x
  obtain ⟨otherIsDigits, otherIsThere⟩ := places_digits y
  rw [debug_text_eq isFinite, debug_text_eq otherIsFinite] at same
  obtain ⟨signs, digits⟩ :=
    sign_append_inj isDigits isThere otherIsDigits otherIsThere (String.ofList_injective same)
  rw [interchange_text_eq isFinite, interchange_text_eq otherIsFinite, signs,
    written_interchange_of_debug isDigits isThere otherIsDigits otherIsThere digits]

theorem all_isNumeral_written (layout : FloatLayout) {digits : List Char}
    (isDigits : digits.all Char.isDigit = true) (leading : Int) :
    (layout.written digits leading).all isNumeral = true := by
  have numerals {text : List Char} (places : text.all isPlace = true) : text.all isNumeral = true :=
    List.all_eq_true.mpr fun c member => isNumeral_of_isPlace (List.all_eq_true.mp places c member)
  unfold written
  split
  · exact numerals (all_isPlace_positional isDigits leading)
  · have power : (layout.exponentSign leading).all isNumeral = true := by
      unfold exponentSign
      split
      · rfl
      · split <;> rfl
    rw [scientific_eq, List.all_append, List.all_cons, List.all_append,
      numerals (all_isPlace_mantissa isDigits), power,
      numerals (all_isPlace_of_isDigit (all_isDigit_digitText leading.natAbs))]
    rfl

theorem all_isNumeral_sign (x : Float) : (sign x).all isNumeral = true := by
  rcases sign_eq x with isSign | isSign <;> rw [isSign] <;> rfl

theorem text_of_not_isFinite {x : Float} (notFinite : x.isFinite = false) (layout : FloatLayout) :
    layout.text x = layout.notANumber ∨ layout.text x = String.ofList (sign x ++ layout.infinite.toList) := by
  have notBoth := mt (Decimal.isFinite_iff x).mpr (by rw [notFinite]; exact Bool.false_ne_true)
  unfold text
  dsimp only
  split
  · exact .inl rfl
  · next isNumber =>
    rw [if_pos (Classical.not_not.mp fun differs => notBoth ⟨by simpa using isNumber, differs⟩)]
    exact .inr rfl

theorem isFinite_of_debug {x y : Float} (same : debug.text x = debug.text y) (isFinite : x.isFinite = true) :
    y.isFinite = true := by
  refine Bool.of_not_eq_false fun notFinite => ?_
  have numerals : (debug.text x).toList.all isNumeral = true := by
    rw [debug_text_eq isFinite, String.toList_ofList, List.all_append, all_isNumeral_sign,
      all_isNumeral_written debug (places_digits x).1]
    rfl
  rw [same] at numerals
  rcases text_of_not_isFinite notFinite debug with isText | isText
  · rw [isText] at numerals
    exact Bool.false_ne_true numerals
  · rw [isText, String.toList_ofList, List.all_append, all_isNumeral_sign] at numerals
    exact Bool.false_ne_true numerals

theorem unmarked_of_isNumeral {c : Char} (numeral : isNumeral c = true) : Debug.unmarked c = true := by
  have differs {d : Char} (notNumeral : isNumeral d = false) : c ≠ d := by
    rintro rfl
    rw [numeral] at notNumeral
    cases notNumeral
  have quote : c ≠ '"' := differs rfl
  have comma : c ≠ ',' := differs rfl
  have openers : c ≠ '(' ∧ c ≠ '[' ∧ c ≠ '\x7b' := ⟨differs rfl, differs rfl, differs rfl⟩
  have closers : c ≠ ')' ∧ c ≠ ']' ∧ c ≠ '\x7d' := ⟨differs rfl, differs rfl, differs rfl⟩
  simp [Debug.unmarked, Debug.opening, Debug.closing, quote, comma, openers, closers]

theorem whole_text (layout : FloatLayout) (notANumber : layout.notANumber.toList.all Debug.unmarked = true)
    (infinite : layout.infinite.toList.all Debug.unmarked = true)
    (least : layout.leastPositional ≤ 0) (greatest : 0 ≤ layout.greatestPositional) (x : Float) :
    Debug.Whole (layout.text x) := by
  have unmarked {text : List Char} (numerals : text.all isNumeral = true) :
      text.all Debug.unmarked = true :=
    List.all_eq_true.mpr fun c member => unmarked_of_isNumeral (List.all_eq_true.mp numerals c member)
  apply Debug.whole_of_unmarked
  cases isFinite : x.isFinite with
  | true =>
    rw [text_of_isFinite isFinite least greatest, String.toList_ofList, List.all_append,
      unmarked (all_isNumeral_sign x), unmarked (all_isNumeral_written layout (places_digits x).1 _)]
    rfl
  | false =>
    rcases text_of_not_isFinite isFinite layout with isText | isText
    · rwa [isText]
    · rw [isText, String.toList_ofList, List.all_append, unmarked (all_isNumeral_sign x), infinite]
      rfl

end FloatLayout

namespace Debug

theorem whole_float (x : Float) : Whole (float x) :=
  FloatLayout.debug.whole_text rfl rfl (by decide) (by decide) x

theorem whole_natural (n : Nat) : Whole (toString n) := by
  apply whole_of_unmarked
  rw [Nat.toString_eq_repr, Nat.toList_repr]
  refine List.all_eq_true.mpr fun c member => FloatLayout.unmarked_of_isNumeral ?_
  exact FloatLayout.isNumeral_of_isPlace (List.all_eq_true.mp
    (FloatLayout.all_isPlace_of_isDigit (FloatLayout.all_isDigit_digitText n)) c member)

theorem natural_injective {m n : Nat} (same : toString m = toString n) : m = n := by
  have digits := congrArg String.toList same
  rw [Nat.toString_eq_repr, Nat.toString_eq_repr, Nat.toList_repr, Nat.toList_repr] at digits
  exact FloatLayout.digitText_inj digits

theorem whole_number (n : Number) : Whole n.text := by
  cases n with
  | integer n =>
    cases n with
    | ofNat n => exact whole_natural n
    | negSucc n =>
      have parted : Number.text (.integer (.negSucc n)) = "-" ++ toString (n + 1) := rfl
      rw [parted]
      exact (whole_of_unmarked rfl).append (whole_natural (n + 1))
  | float x => exact FloatLayout.interchange.whole_text rfl rfl (by decide) (by decide) x

theorem pretty_ofFloat_of_debug {x y : Float} (same : float x = float y) (level : Nat) :
    (Json.ofFloat x).prettyAt level = (Json.ofFloat y).prettyAt level := by
  cases isFinite : x.isFinite with
  | true =>
    have otherIsFinite := FloatLayout.isFinite_of_debug same isFinite
    rw [Json.ofFloat, Json.ofFloat, if_pos isFinite, if_pos otherIsFinite, Json.prettyAt, Json.prettyAt,
      Number.text, Number.text, FloatLayout.interchange_of_debug isFinite otherIsFinite same]
  | false =>
    have otherNotFinite : ¬ y.isFinite = true := fun otherIsFinite => by
      have := FloatLayout.isFinite_of_debug same.symm otherIsFinite
      rw [isFinite] at this
      cases this
    rw [Json.ofFloat, Json.ofFloat, isFinite, if_neg Bool.false_ne_true, if_neg otherNotFinite]

end Debug
end WireContract

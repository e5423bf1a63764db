import Mathlib
import WireContract.Json.Basic

/-!
Integers as doubles. An integer of up to 64 bits becomes the double nearest to it, a multiple of the distance
of doubles at its size, and doubles compare as their values. Main statements: `hasValue_toFloat` and
`toFloat_beq_iff`.
-/

namespace WireContract

namespace Number

def roundedQuotient (n d : Nat) : Nat :=
  if 2 * (n % d) < d then n / d
  else if 2 * (n % d) = d then n / d + n / d % 2
  else n / d + 1

/-- How far doubles are apart from the greatest power of two up to `n` to the next one: their significands
have 53 bits. -/
def spacing (n : Nat) : Nat := 2 ^ (n.log2 - 52)

def nearestNat (n : Nat) : Nat := roundedQuotient n (spacing n) * spacing n

def nearest (n : Int) : Int := n.sign * nearestNat n.natAbs

theorem log2_eq_of_bounds {n k : Nat} (least : 2 ^ k ≤ n) (below : n < 2 ^ (k + 1)) : n.log2 = k := by
  have positive := Nat.two_pow_pos k
  exact (Nat.log2_eq_iff (by omega)).mpr ⟨least, below⟩

theorem log2_mul_two_pow {n : Nat} (isThere : n ≠ 0) (shift : Nat) :
    (n * 2 ^ shift).log2 = n.log2 + shift := by
  induction shift with
  | zero => rw [Nat.pow_zero, Nat.mul_one, Nat.add_zero]
  | succ shift ih =>
    have double : n * 2 ^ (shift + 1) = 2 * (n * 2 ^ shift) := by
      rw [Nat.pow_succ]
      ring
    have shifted : n * 2 ^ shift ≠ 0 := Nat.mul_ne_zero isThere (Nat.ne_of_gt (Nat.two_pow_pos shift))
    rw [double, Nat.log2_two_mul shifted, ih, Nat.add_assoc]

/-- In multiples of the spacing a number has 53 bits, or is rounded to the next power of two. -/
theorem roundedQuotient_bounds {n : Nat} (wide : 52 ≤ n.log2) :
    2 ^ 52 ≤ roundedQuotient n (spacing n) ∧ roundedQuotient n (spacing n) ≤ 2 ^ 53 := by
  have isThere : n ≠ 0 := by
    rintro rfl
    simp at wide
  obtain ⟨least, below⟩ := (Nat.log2_eq_iff isThere).mp rfl
  have low : 2 ^ 52 ≤ n / spacing n := by
    rw [spacing, Nat.le_div_iff_mul_le (Nat.two_pow_pos _), ← Nat.pow_add, Nat.add_sub_cancel' wide]
    exact least
  have high : n / spacing n < 2 ^ 53 := by
    have bits : 53 + (n.log2 - 52) = n.log2 + 1 := by omega
    rw [spacing, Nat.div_lt_iff_lt_mul (Nat.two_pow_pos _), ← Nat.pow_add, bits]
    exact below
  rw [roundedQuotient]
  split
  · omega
  · split <;> omega

theorem spacing_of_lt {n : Nat} (below : n < 2 ^ 53) : spacing n = 1 := by
  have short : n.log2 ≤ 52 := by
    rcases Nat.eq_zero_or_pos n with rfl | positive
    · simp
    · exact Nat.le_of_lt_succ ((Nat.log2_lt (Nat.ne_of_gt positive)).mpr below)
  rw [spacing, Nat.sub_eq_zero_of_le short, Nat.pow_zero]

theorem nearestNat_of_dvd {n : Nat} (isDouble : spacing n ∣ n) : nearestNat n = n := by
  have positive : 0 < spacing n := Nat.two_pow_pos _
  rw [nearestNat, roundedQuotient, Nat.mod_eq_zero_of_dvd isDouble, if_pos (by omega),
    Nat.div_mul_cancel isDouble]

theorem nearestNat_of_lt {n : Nat} (below : n < 2 ^ 53) : nearestNat n = n := by
  apply nearestNat_of_dvd
  rw [spacing_of_lt below]
  exact Nat.one_dvd n

theorem nearestNat_filled {n : Nat} (isThere : n ≠ 0) :
    nearestNat (n * 2 ^ (52 - n.log2)) = nearestNat n * 2 ^ (52 - n.log2) := by
  by_cases wide : 52 ≤ n.log2
  · rw [Nat.sub_eq_zero_of_le wide, Nat.pow_zero, Nat.mul_one, Nat.mul_one]
  · have filled : (n * 2 ^ (52 - n.log2)).log2 = 52 := by
      rw [log2_mul_two_pow isThere]
      omega
    have isFilled : n * 2 ^ (52 - n.log2) ≠ 0 := Nat.mul_ne_zero isThere (Nat.ne_of_gt (Nat.two_pow_pos _))
    rw [nearestNat_of_lt ((Nat.log2_lt isFilled).mp (by omega)),
      nearestNat_of_lt ((Nat.log2_lt isThere).mp (by omega))]

theorem nearest_natCast (n : Nat) : nearest n = nearestNat n := by
  rcases Nat.eq_zero_or_pos n with rfl | positive
  · rfl
  · rw [nearest, Int.sign_natCast_of_ne_zero (Nat.ne_of_gt positive), Int.one_mul, Int.natAbs_natCast]

theorem nearest_neg (n : Int) : nearest (-n) = -nearest n := by
  rw [nearest, Int.sign_neg, Int.natAbs_neg, Int.neg_mul, nearest]

end Number

namespace Binary64

open Float.Model Float.Model.UnpackedFloat

section Rounding

/-- Behind the last bit that is kept stand the first bit that is dropped, and whether any other is set. -/
theorem shiftRight_exact (m k : Nat) :
    (⟨m, false, false⟩ : ExtendedMantissa) >>> k =
      ⟨m / 2 ^ k, decide (2 ^ k ≤ 2 * (m % 2 ^ k)),
        decide (2 * (m % 2 ^ k) ≠ 0 ∧ 2 * (m % 2 ^ k) ≠ 2 ^ k)⟩ := by
  show k.repeat ExtendedMantissa.shiftRightOne ⟨m, false, false⟩ = _
  induction k with
  | zero => simp [Nat.repeat, Nat.mod_one]
  | succ k ih =>
    have parts : m % 2 ^ (k + 1) = m % 2 ^ k + 2 ^ k * (m / 2 ^ k % 2) := by
      rw [Nat.pow_succ, Nat.mod_mul]
    have rest : m % 2 ^ k < 2 ^ k := Nat.mod_lt _ (Nat.two_pow_pos k)
    have bit : m / 2 ^ k % 2 = 0 ∨ m / 2 ^ k % 2 = 1 := Nat.mod_two_eq_zero_or_one _
    have double : 2 ^ (k + 1) = 2 * 2 ^ k := by rw [Nat.pow_succ, Nat.mul_comm]
    rw [Nat.repeat, ih, ExtendedMantissa.shiftRightOne, parts, Nat.div_div_eq_div_mul, ← Nat.pow_succ,
      ExtendedMantissa.mk.injEq]
    refine ⟨rfl, ?_, ?_⟩
    · rcases bit with bit | bit <;> rw [bit] <;> simp <;> omega
    · rw [← Bool.decide_or, decide_eq_decide]
      rcases bit with bit | bit <;> rw [bit] <;> omega

theorem roundedMantissa_shiftRight (m k : Nat) :
    ((⟨m, false, false⟩ : ExtendedMantissa) >>> k).roundedMantissa = Number.roundedQuotient m (2 ^ k) := by
  rw [shiftRight_exact, Number.roundedQuotient, ExtendedMantissa.roundedMantissa]
  by_cases low : 2 * (m % 2 ^ k) < 2 ^ k
  · rw [if_pos low, decide_eq_false (Nat.not_le.mpr low)]
    generalize decide (2 * (m % 2 ^ k) ≠ 0 ∧ 2 * (m % 2 ^ k) ≠ 2 ^ k) = sticky
    cases sticky <;> rfl
  · rw [if_neg low, decide_eq_true (Nat.not_lt.mp low)]
    by_cases half : 2 * (m % 2 ^ k) = 2 ^ k
    · rw [if_pos half, decide_eq_false fun differs => differs.2 half]
      rfl
    · have positive := Nat.two_pow_pos k
      rw [if_neg half, decide_eq_true ⟨by omega, half⟩]
      rfl

theorem targetExponent_eq {m : Nat} {e : Int} (inRange : -1022 ≤ e) :
    Format.binary64.targetExponent (totalExponent m e) = m.log2 + e - 52 := by
  have bits : (Format.binary64.mantissaBits : Int) = 53 := rfl
  have least : Format.binary64.minExponent = -1074 := rfl
  rw [Format.targetExponent, totalExponent]
  omega

theorem shiftToTargetExponent_eq {m : Nat} {e : Int} (wide : 52 ≤ m.log2) (inRange : -1022 ≤ e) :
    shiftToTargetExponent .binary64 m e .exact =
      ((⟨m, false, false⟩ : ExtendedMantissa) >>> (m.log2 - 52), e + (m.log2 - 52 : Nat)) := by
  have target : Format.binary64.targetExponent (totalExponent m e) - e = (m.log2 - 52 : Nat) := by
    rw [targetExponent_eq inRange]
    omega
  rw [shiftToTargetExponent, shiftToExponent, target]
  rfl

theorem roundWithAccuracy_of_shifts (sign : Sign) {format : Format} {m : Nat} {e : Int}
    {first last : ExtendedMantissa × Int} (isFirst : shiftToTargetExponent format m e .exact = first)
    (isLast : shiftToTargetExponent format first.1.roundedMantissa first.2 .exact = last)
    (positive : 0 < last.1.mantissa) :
    roundWithAccuracy format sign m e .exact = .finite sign last.1.mantissa last.2 positive := by
  subst isFirst isLast
  exact dif_neg (Nat.ne_of_gt positive)

theorem roundWithAccuracy_exact (sign : Sign) {m : Nat} {e : Int} (wide : 52 ≤ m.log2)
    (inRange : -1022 ≤ e) :
    ∃ significand scale positive,
      roundWithAccuracy .binary64 sign m e .exact = .finite sign significand (e + (scale : Nat)) positive ∧
      2 ^ 52 ≤ significand ∧ significand < 2 ^ 53 ∧ scale ≤ m.log2 - 51 ∧
      significand * 2 ^ scale = Number.nearestNat m := by
  obtain ⟨low, high⟩ := Number.roundedQuotient_bounds wide
  have rounded := roundedMantissa_shiftRight m (m.log2 - 52)
  have value : Number.nearestNat m =
      Number.roundedQuotient m (2 ^ (m.log2 - 52)) * 2 ^ (m.log2 - 52) := rfl
  rw [Number.spacing] at low high
  generalize Number.roundedQuotient m (2 ^ (m.log2 - 52)) = quotient at *
  have shifted {shift : Nat} (log : quotient.log2 = 52 + shift) (positive : 0 < quotient / 2 ^ shift) :
      roundWithAccuracy .binary64 sign m e .exact =
        .finite sign (quotient / 2 ^ shift) (e + (m.log2 - 52 + shift : Nat)) positive := by
    have again : quotient.log2 - 52 = shift := by omega
    have last := shiftToTargetExponent_eq (e := e + (m.log2 - 52 : Nat)) (by omega : 52 ≤ quotient.log2)
      (by omega)
    rw [again, shiftRight_exact, Int.add_assoc, ← Int.natCast_add, ← rounded] at last
    have isRounded := roundWithAccuracy_of_shifts sign (shiftToTargetExponent_eq wide inRange) last
    rw [rounded] at isRounded
    exact isRounded positive
  rcases Nat.lt_or_eq_of_le high with below | isPower
  · have log : quotient.log2 = 52 + 0 := Number.log2_eq_of_bounds low below
    have whole : quotient / 2 ^ 0 = quotient := by omega
    refine ⟨quotient / 2 ^ 0, m.log2 - 52 + 0, by omega, shifted log _, by omega, by omega, by omega, ?_⟩
    rw [whole, value, Nat.add_zero]
  · subst isPower
    have log : (2 ^ 53 : Nat).log2 = 52 + 1 := Nat.log2_two_pow
    refine ⟨2 ^ 53 / 2 ^ 1, m.log2 - 52 + 1, by decide, shifted log _, by decide, by decide, by omega, ?_⟩
    rw [value, Nat.pow_succ]
    ring

end Rounding

/-- A float in normal form that has an integer as its value. -/
inductive HasValue : UnpackedFloat → Int → Prop
  | zero (sign : Sign) : HasValue (.zero sign) 0
  | finite (sign : Sign) {significand scale magnitude : Nat} (positive : 0 < significand)
      (least : 2 ^ 52 ≤ significand) (below : significand < 2 ^ 53) (small : scale ≤ 64)
      (same : significand * 2 ^ scale = magnitude * 2 ^ 52) :
      HasValue (.finite sign significand (scale - 52) positive) (sign.apply magnitude)

/-- Of two significands of 53 bits for one value neither has the greater scale. -/
theorem scale_le_of_eq {significand scale other otherScale : Nat} (least : 2 ^ 52 ≤ significand)
    (below : other < 2 ^ 53) (same : significand * 2 ^ scale = other * 2 ^ otherScale) :
    scale ≤ otherScale := by
  by_contra greater
  have split : 2 ^ scale = 2 ^ (scale - otherScale - 1) * 2 * 2 ^ otherScale := by
    rw [← Nat.pow_succ, ← Nat.pow_add]
    congr 1
    omega
  have isOther : significand * (2 ^ (scale - otherScale - 1) * 2) = other := by
    apply Nat.eq_of_mul_eq_mul_right (Nat.two_pow_pos otherScale)
    rw [Nat.mul_assoc, ← split, same]
  have tooLong : significand * 2 ≤ other := by
    rw [← isOther]
    apply Nat.mul_le_mul_left
    exact Nat.le_mul_of_pos_left 2 (Nat.two_pow_pos _)
  omega

theorem sign_apply_inj {sign other : Sign} {m n : Nat} (positive : 0 < m) :
    sign.apply m = other.apply n ↔ sign = other ∧ m = n := by
  cases sign <;> cases other <;> simp [Sign.apply] <;> omega

theorem unpackSign_packComponents (format : Format) (sign : Sign) (exponent mantissa) :
    Sign.ofBitVec (unpackSign (packComponents format sign exponent mantissa)) = sign := by
  have signBit : unpackSign (packComponents format sign exponent mantissa) = sign.toBitVec := by
    ext i below
    obtain rfl : i = 0 := by omega
    simp [unpackSign, packComponents, BitVec.getLsbD_append, BitVec.getElem_append]
  rw [signBit]
  cases sign <;> rfl

theorem toNat_append_significand {significand : Nat} (least : 2 ^ 52 ≤ significand)
    (below : significand < 2 ^ 53) : (1#1 ++ BitVec.ofNat 52 significand).toNat = significand := by
  rw [BitVec.toNat_append, ← Nat.shiftLeft_add_eq_or_of_lt (BitVec.isLt _), Nat.shiftLeft_eq,
    BitVec.toNat_ofNat]
  show 1 * 2 ^ 52 + significand % 2 ^ 52 = significand
  omega

theorem pack_finite (sign : Sign) {significand scale : Nat} (positive : 0 < significand)
    (least : 2 ^ 52 ≤ significand) (below : significand < 2 ^ 53) (small : scale + 1023 < 2047) :
    UnpackedFloat.pack .binary64 (.finite sign significand (scale - 52) positive) =
      packComponents .binary64 sign (BitVec.ofNat 11 (scale + 1023)) (BitVec.ofNat 52 significand) := by
  have log : significand.log2 = 52 := Number.log2_eq_of_bounds least below
  have biased : ((scale : Int) - 52 + Format.binary64.exponentBias +
      Format.binary64.mantissaBitsWithoutImplicit).toNat = scale + 1023 := by
    have bias : (Format.binary64.exponentBias : Int) = 1023 := rfl
    have bits : (Format.binary64.mantissaBitsWithoutImplicit : Int) = 52 := rfl
    omega
  simp only [UnpackedFloat.pack, biased, log]
  rw [if_neg (show ¬ 2 ^ 11 ≤ scale + 1023 + 1 by omega)]
  exact if_pos rfl

namespace HasValue

variable {float other : UnpackedFloat} {value otherValue : Int}

theorem neg (hasValue : HasValue float value) : HasValue float.neg (-value) := by
  cases hasValue with
  | zero sign => exact .zero (-sign)
  | @finite sign significand scale magnitude positive least below small same =>
    have opposite : -sign.apply magnitude = (-sign).apply magnitude := by
      cases sign
      · exact Int.neg_neg _
      · rfl
    rw [opposite]
    exact .finite (-sign) positive least below small same

theorem magnitude_pos {significand scale magnitude : Nat} (positive : 0 < significand)
    (same : significand * 2 ^ scale = magnitude * 2 ^ 52) : 0 < magnitude := by
  have scaled := Nat.mul_pos positive (Nat.two_pow_pos scale)
  omega

theorem beq_iff (hasValue : HasValue float value) (hasOther : HasValue other otherValue) :
    float.beq other = true ↔ value = otherValue := by
  cases hasValue with
  | zero sign =>
    cases hasOther with
    | zero other => simp [UnpackedFloat.beq, UnpackedFloat.compare]
    | @finite other _ _ magnitude positive _ _ _ same =>
      have isOther := magnitude_pos positive same
      cases other <;> simp [UnpackedFloat.beq, UnpackedFloat.compare, Sign.apply] <;> omega
  | @finite sign significand scale magnitude positive least below small same =>
    have isThere := magnitude_pos positive same
    cases hasOther with
    | zero other => cases sign <;> simp [UnpackedFloat.beq, UnpackedFloat.compare, Sign.apply] <;> omega
    | @finite other otherSignificand otherScale otherMagnitude _ otherLeast otherBelow _ otherSame =>
      have parts : (scale : Int) - 52 = otherScale - 52 ∧ significand = otherSignificand ↔
          magnitude = otherMagnitude := by
        constructor
        · rintro ⟨sameScale, rfl⟩
          obtain rfl : scale = otherScale := by omega
          omega
        · rintro rfl
          have scaled := same.trans otherSame.symm
          obtain rfl := Nat.le_antisymm (scale_le_of_eq least otherBelow scaled)
            (scale_le_of_eq otherLeast below scaled.symm)
          exact ⟨rfl, Nat.eq_of_mul_eq_mul_right (Nat.two_pow_pos scale) scaled⟩
      rw [sign_apply_inj isThere, ← parts]
      cases sign <;> cases other <;>
        simp [UnpackedFloat.beq, UnpackedFloat.compare, Ordering.then_eq_eq, Ordering.swap_eq_iff_eq_swap]

theorem unpack_pack (hasValue : HasValue float value) :
    UnpackedFloat.unpack .binary64 (UnpackedFloat.pack .binary64 float) = float := by
  cases hasValue with
  | zero sign => cases sign <;> rfl
  | @finite sign significand scale magnitude positive least below small same =>
    have exponent : (BitVec.ofNat 11 (scale + 1023)).toNat = scale + 1023 := by
      rw [BitVec.toNat_ofNat, Nat.mod_eq_of_lt (by omega)]
    have notTop : BitVec.ofNat 11 (scale + 1023) ≠ -1#11 := by
      rw [Ne, ← BitVec.toNat_inj, exponent]
      exact Nat.ne_of_lt (show scale + 1023 < 2047 by omega)
    have notLow : BitVec.ofNat 11 (scale + 1023) ≠ 0#11 := by
      rw [Ne, ← BitVec.toNat_inj, exponent]
      exact Nat.succ_ne_zero _
    have isScale : ((scale + 1023 : Nat) : Int) - (Format.binary64.exponentBias + 52) = scale - 52 := by
      have bias : (Format.binary64.exponentBias : Int) = 1023 := rfl
      omega
    rw [pack_finite sign positive least below (by omega), UnpackedFloat.unpack]
    simp only [unpackMantissa_packComponents, unpackExponent_packComponents, unpackSign_packComponents,
      exponent]
    rw [if_neg notTop, if_neg notLow, UnpackedFloat.finite.injEq]
    exact ⟨rfl, toNat_append_significand least below, isScale⟩

end HasValue

/-- A natural is rounded behind the bits of a significand, which are filled up before. -/
theorem ofNat_eq_rounded {n : Nat} (positive : 0 < n) :
    UnpackedFloat.ofNat .binary64 n =
      roundWithAccuracy .binary64 .positive (n * 2 ^ (52 - n.log2)) (0 - (52 - n.log2 : Nat)) .exact := by
  have isRound : UnpackedFloat.ofNat .binary64 n = UnpackedFloat.round .binary64 .positive n 0 := by
    have sign : compare (n : Int) 0 = .gt := Int.compare_eq_gt.mpr (by omega)
    rw [UnpackedFloat.ofNat, UnpackedFloat.ofInt, UnpackedFloat.normalize, sign]
    rfl
  have shift : (0 - ((n.log2 : Int) + 0 - 52)).toNat = 52 - n.log2 := by omega
  rw [isRound, UnpackedFloat.round, targetExponent_eq (by decide), decreaseExponent, shift,
    Nat.shiftLeft_eq]

theorem hasValue_ofNat {n : Nat} (below : n < 2 ^ 64) :
    HasValue (UnpackedFloat.ofNat .binary64 n) (Number.nearestNat n) := by
  rcases Nat.eq_zero_or_pos n with rfl | isPositive
  · exact .zero .positive
  · have isThere : n ≠ 0 := Nat.ne_of_gt isPositive
    have short : n.log2 < 64 := (Nat.log2_lt isThere).mpr below
    have filled := Number.log2_mul_two_pow isThere (52 - n.log2)
    obtain ⟨significand, scale, positive, isFloat, least, isBelow, small, same⟩ :=
      roundWithAccuracy_exact .positive (m := n * 2 ^ (52 - n.log2)) (e := 0 - (52 - n.log2 : Nat))
        (by omega) (by omega)
    have exponent : (0 - (52 - n.log2 : Nat) : Int) + (scale : Nat) =
        (scale + 52 - (52 - n.log2) : Nat) - 52 := by omega
    rw [ofNat_eq_rounded isPositive, isFloat, exponent]
    refine .finite .positive positive least isBelow (by omega) ?_
    apply Nat.eq_of_mul_eq_mul_right (Nat.two_pow_pos (52 - n.log2))
    calc significand * 2 ^ (scale + 52 - (52 - n.log2)) * 2 ^ (52 - n.log2)
        = significand * 2 ^ scale * 2 ^ 52 := by
          rw [Nat.mul_assoc, ← Nat.pow_add, Nat.sub_add_cancel (by omega), Nat.pow_add, Nat.mul_assoc]
      _ = Number.nearestNat n * 2 ^ 52 * 2 ^ (52 - n.log2) := by
          rw [same, Number.nearestNat_filled isThere]
          ring

end Binary64

namespace Number

open Binary64

theorem hasValue_ofUInt64 {n : Nat} (below : n < 2 ^ 64) :
    HasValue (UInt64.ofNat n).toFloat.toModel.unpack (nearestNat n) := by
  have hasValue := hasValue_ofNat below
  have isNatural : (UInt64.ofNat n).toNat = n := UInt64.toNat_ofNat_of_lt' below
  have isFloat : (UInt64.ofNat n).toFloat.toModel.unpack =
      Float.Model.UnpackedFloat.unpack .binary64 (Float.Model.UnpackedFloat.pack .binary64
        (Float.Model.UnpackedFloat.ofNat .binary64 (UInt64.ofNat n).toNat)) := rfl
  rw [isFloat, isNatural, hasValue.unpack_pack]
  exact hasValue

/-- As a double an integer has the value nearest to it. -/
theorem hasValue_toFloat {n : Int} (inRange : InRange n) :
    HasValue (integer n).toFloat.toModel.unpack (nearest n) := by
  obtain ⟨least, below⟩ := inRange
  rw [toFloat]
  split
  · next negative =>
    have hasValue := (hasValue_ofUInt64 (show n.natAbs < 2 ^ 64 by omega)).neg
    have isFloat (x : Float) : (-x).toModel.unpack =
        Float.Model.UnpackedFloat.unpack .binary64
          (Float.Model.UnpackedFloat.pack .binary64 x.toModel.unpack.neg) := rfl
    have isNegative : n = -(n.natAbs : Int) := by omega
    rw [isFloat, hasValue.unpack_pack]
    conv => rhs; rw [isNegative, nearest_neg, nearest_natCast]
    exact hasValue
  · next natural =>
    have isNatural : n = n.toNat := by omega
    conv => rhs; rw [isNatural, nearest_natCast]
    exact hasValue_ofUInt64 (by omega)

theorem toFloat_beq_iff {m n : Int} (inRange : InRange m) (otherInRange : InRange n) :
    ((integer m).toFloat == (integer n).toFloat) = true ↔ nearest m = nearest n :=
  (hasValue_toFloat inRange).beq_iff (hasValue_toFloat otherInRange)

end Number
end WireContract

import WireContract.Proofs.Acceptance
import WireContract.Proofs.IntegerDoubles

namespace WireContract

namespace Number

section Naturals

variable {n other k : Nat}

theorem spacing_of_bounds (least : 2 ^ (52 + k) ≤ n) (below : n < 2 ^ (52 + k + 1)) : spacing n = 2 ^ k := by
  rw [spacing, log2_eq_of_bounds least below, Nat.add_sub_cancel_left]

theorem log2_wide (high : 2 ^ 53 ≤ n) : 53 ≤ n.log2 := (Nat.le_log2 (by omega)).mpr high

theorem le_nearestNat (wide : 53 ≤ k) (least : 2 ^ k ≤ n) : 2 ^ k ≤ nearestNat n := by
  have isThere : n ≠ 0 := Nat.ne_of_gt (Nat.lt_of_lt_of_le (Nat.two_pow_pos k) least)
  have log : k ≤ n.log2 := (Nat.le_log2 isThere).mpr least
  calc 2 ^ k ≤ 2 ^ (52 + (n.log2 - 52)) := Nat.pow_le_pow_right (by decide) (by omega)
    _ = 2 ^ 52 * spacing n := by rw [Nat.pow_add, spacing]
    _ ≤ nearestNat n := Nat.mul_le_mul_right _ (roundedQuotient_bounds (by omega)).1

theorem nearestNat_le (below : n < 2 ^ k) : nearestNat n ≤ 2 ^ k := by
  by_cases short : n < 2 ^ 53
  · rw [nearestNat_of_lt short]
    exact Nat.le_of_lt below
  · have log := log2_wide (Nat.not_lt.mp short)
    have logBelow : n.log2 < k := (Nat.log2_lt (by omega)).mpr below
    calc nearestNat n ≤ 2 ^ 53 * spacing n := Nat.mul_le_mul_right _ (roundedQuotient_bounds (by omega)).2
      _ = 2 ^ (53 + (n.log2 - 52)) := by rw [Nat.pow_add, spacing]
      _ ≤ 2 ^ k := Nat.pow_le_pow_right (by decide) (by omega)

theorem spacing_dvd_nearestNat (n : Nat) : spacing (nearestNat n) ∣ nearestNat n := by
  by_cases short : n < 2 ^ 53
  · rw [nearestNat_of_lt short, spacing_of_lt short]
    exact Nat.one_dvd n
  · have wide := log2_wide (Nat.not_lt.mp short)
    obtain ⟨low, high⟩ := roundedQuotient_bounds (n := n) (by omega)
    have positive : 0 < spacing n := Nat.two_pow_pos _
    rcases Nat.lt_or_eq_of_le high with below | isPower
    · have same : spacing (nearestNat n) = spacing n := by
        apply spacing_of_bounds
        · rw [Nat.pow_add]
          exact Nat.mul_le_mul_right _ low
        · rw [Nat.add_right_comm, Nat.pow_add]
          exact Nat.mul_lt_mul_of_pos_right below positive
      rw [same]
      exact Nat.dvd_mul_left _ _
    · have isDouble : nearestNat n = 2 ^ (53 + (n.log2 - 52)) := by
        rw [nearestNat, isPower, spacing, Nat.pow_add]
      rw [isDouble, spacing, Nat.log2_two_pow]
      exact Nat.pow_dvd_pow 2 (Nat.sub_le _ _)

theorem nearestNat_nearestNat (n : Nat) : nearestNat (nearestNat n) = nearestNat n :=
  nearestNat_of_dvd (spacing_dvd_nearestNat n)

/-- From 2 ^ 53 on a double that is a multiple of four is also that of the next integer. -/
theorem nearestNat_succ (high : 2 ^ 53 ≤ n) (isDouble : spacing n ∣ n) (even : 4 ∣ n) :
    nearestNat (n + 1) = n := by
  have wide := log2_wide high
  obtain ⟨least, below⟩ := (Nat.log2_eq_iff (by omega : n ≠ 0)).mp rfl
  obtain ⟨scale, isScale⟩ : ∃ scale, n.log2 = 53 + scale := ⟨n.log2 - 53, by omega⟩
  have isSpacing : spacing n = 2 * 2 ^ scale := by
    rw [spacing, isScale, Nat.mul_comm, ← Nat.pow_succ]
    congr 1
    omega
  have same : spacing (n + 1) = spacing n := by
    have double : 2 ^ (n.log2 + 1) = 2 * 2 ^ n.log2 := by rw [Nat.pow_succ, Nat.mul_comm]
    have log : (n + 1).log2 = n.log2 := log2_eq_of_bounds (by omega) (by omega)
    rw [spacing, spacing, log]
  have positive : 0 < 2 ^ scale := Nat.two_pow_pos scale
  rw [nearestNat, same]
  generalize spacing n = distance at *
  obtain ⟨quotient, isProduct⟩ := isDouble
  have whole : quotient * distance = n := by rw [isProduct, Nat.mul_comm]
  have division : (n + 1) / distance = quotient := by
    rw [isProduct, Nat.mul_add_div (by omega), Nat.div_eq_of_lt (by omega), Nat.add_zero]
  have remainder : (n + 1) % distance = 1 := by
    rw [isProduct, Nat.mul_add_mod, Nat.mod_eq_of_lt (by omega)]
  rw [roundedQuotient, division, remainder]
  split
  · exact whole
  · have half : 2 * 1 = distance := by omega
    have isEven : quotient % 2 = 0 := by
      rw [← half] at whole
      omega
    rw [if_pos half, isEven, Nat.add_zero]
    exact whole

/-- At most 53 bits, or 54 bits that end in one and zero: the naturals that share their double with no
other. -/
def IsAlone (n : Nat) : Prop := n < 2 ^ 53 ∨ n < 2 ^ 54 ∧ n % 4 = 2

theorem spacing_of_54_bits (high : 2 ^ 53 ≤ n) (below : n < 2 ^ 54) : spacing n = 2 :=
  spacing_of_bounds (k := 1) high below

theorem nearestNat_of_54_bits (high : 2 ^ 53 ≤ n) (below : n < 2 ^ 54) :
    nearestNat n = roundedQuotient n 2 * 2 := by
  rw [nearestNat, spacing_of_54_bits high below]

theorem IsAlone.nearestNat_eq (alone : IsAlone n) : nearestNat n = n := by
  rcases Nat.lt_or_ge n (2 ^ 53) with short | high
  · exact nearestNat_of_lt short
  · obtain ⟨below, remainder⟩ := alone.resolve_left (Nat.not_lt.mpr high)
    rw [nearestNat_of_54_bits high below, roundedQuotient]
    split <;> omega

theorem IsAlone.eq_of_nearestNat_eq (alone : IsAlone n) (same : nearestNat other = nearestNat n) :
    other = n := by
  rw [alone.nearestNat_eq] at same
  rcases Nat.lt_or_ge other (2 ^ 53) with short | high
  · rwa [nearestNat_of_lt short] at same
  · have isAtLeast := le_nearestNat (by decide) high
    obtain ⟨isBelow, remainder⟩ := alone.resolve_left (by omega)
    have below : other < 2 ^ 54 := by
      by_contra tooHigh
      have isHigher := le_nearestNat (by decide) (Nat.not_lt.mp tooHigh)
      omega
    -- its odd neighbours are rounded away from it, to doubles that four divides
    rw [nearestNat_of_54_bits high below, roundedQuotient] at same
    split at same
    · omega
    · split at same <;> omega

theorem rounded_or_shared (shared : ¬ IsAlone n) :
    nearestNat n ≠ n ∨ nearestNat n = n ∧ nearestNat (n + 1) = n := by
  by_cases itself : nearestNat n = n
  · have high : 2 ^ 53 ≤ n := Nat.not_lt.mp fun short => shared (.inl short)
    have isDouble : spacing n ∣ n := by
      have divides := spacing_dvd_nearestNat n
      rwa [itself] at divides
    have even : 4 ∣ n := by
      rcases Nat.lt_or_ge n (2 ^ 54) with below | isHigher
      · rw [spacing_of_54_bits high below] at isDouble
        have remainder : n % 4 ≠ 2 := fun remainder => shared (.inr ⟨below, remainder⟩)
        omega
      · have log : 54 ≤ n.log2 := (Nat.le_log2 (by omega)).mpr isHigher
        exact (Nat.pow_dvd_pow 2 (by omega : 2 ≤ n.log2 - 52)).trans isDouble
    exact .inr ⟨itself, nearestNat_succ high isDouble even⟩
  · exact .inl itself

theorem exists_other_unsigned (below : n < 2 ^ 64) (shared : ¬ IsAlone n) :
    ∃ other < 2 ^ 64, other ≠ n ∧ nearestNat other = nearestNat n := by
  have last : nearestNat (2 ^ 64 - 1) = 2 ^ 64 := by decide
  rcases rounded_or_shared shared with rounded | ⟨itself, next⟩
  · rcases Nat.lt_or_eq_of_le (nearestNat_le below) with isBelow | isTop
    · exact ⟨nearestNat n, isBelow, rounded, nearestNat_nearestNat n⟩
    · by_cases isLast : n = 2 ^ 64 - 1
      · subst isLast
        exact ⟨2 ^ 64 - 2, by decide, by decide, by decide⟩
      · exact ⟨2 ^ 64 - 1, by decide, Ne.symm isLast, by rw [last, isTop]⟩
  · have notLast : n ≠ 2 ^ 64 - 1 := by
      rintro rfl
      rw [last] at itself
      omega
    exact ⟨n + 1, by omega, Nat.succ_ne_self n, by rw [next, itself]⟩

theorem exists_other_negative (inRange : n ≤ 2 ^ 63) (shared : ¬ IsAlone n) :
    ∃ other ≤ 2 ^ 63, other ≠ n ∧ nearestNat other = nearestNat n := by
  have least : nearestNat (2 ^ 63) = 2 ^ 63 := by decide
  rcases rounded_or_shared shared with rounded | ⟨itself, next⟩
  · have below : n < 2 ^ 63 := Nat.lt_of_le_of_ne inRange (by rintro rfl; exact rounded least)
    exact ⟨nearestNat n, nearestNat_le below, rounded, nearestNat_nearestNat n⟩
  · by_cases isLeast : n = 2 ^ 63
    · subst isLeast
      exact ⟨2 ^ 63 - 1, by decide, by decide, by decide⟩
    · exact ⟨n + 1, by omega, Nat.succ_ne_self n, by rw [next, itself]⟩

end Naturals

theorem natAbs_nearest (n : Int) : (nearest n).natAbs = nearestNat n.natAbs := by
  obtain ⟨magnitude, rfl | rfl⟩ := n.eq_nat_or_neg
  · rw [nearest_natCast, Int.natAbs_natCast, Int.natAbs_natCast]
  · rw [nearest_neg, nearest_natCast, Int.natAbs_neg, Int.natAbs_natCast, Int.natAbs_neg,
      Int.natAbs_natCast]

/-- An integer shares its double with another one of up to 64 bits unless it is as `IsAlone` says. -/
theorem alone_iff {n : Int} (inRange : InRange n) :
    (∀ m, InRange m → nearest m = nearest n → m = n) ↔ IsAlone n.natAbs := by
  constructor
  · intro alone
    by_contra shared
    obtain ⟨least, below⟩ := inRange
    obtain ⟨magnitude, rfl | rfl⟩ := n.eq_nat_or_neg
    · rw [Int.natAbs_natCast] at shared
      obtain ⟨other, isBelow, differs, same⟩ := exists_other_unsigned (by omega) shared
      have isSame := alone other ⟨by omega, by omega⟩ (by rw [nearest_natCast, nearest_natCast, same])
      omega
    · rw [Int.natAbs_neg, Int.natAbs_natCast] at shared
      obtain ⟨other, isBelow, differs, same⟩ := exists_other_negative (by omega) shared
      have isSame := alone (-other) ⟨by omega, by omega⟩
        (by rw [nearest_neg, nearest_neg, nearest_natCast, nearest_natCast, same])
      omega
  · intro alone m _ same
    have magnitudes := congrArg Int.natAbs same
    rw [natAbs_nearest, natAbs_nearest] at magnitudes
    have sameMagnitude := alone.eq_of_nearestNat_eq magnitudes
    rcases Int.natAbs_eq_natAbs_iff.mp sameMagnitude with isSame | opposite
    · exact isSame
    · -- only zero becomes the same double as its opposite
      have isZero : (nearest n).natAbs = 0 := by
        rw [opposite, nearest_neg] at same
        omega
      rw [natAbs_nearest] at isZero
      have isNone : (0 : Nat) = n.natAbs :=
        alone.eq_of_nearestNat_eq (isZero.trans (nearestNat_of_lt (by decide)).symm).symm
      omega

end Number

namespace RuleSet

def ofOneOf (allowed : List Json) : RuleSet := { empty with oneOf := some allowed }

end RuleSet

namespace Basic

theorem opinion_ofOneOf (n : Number) (allowed : List Json) (key : Option String) (now : Instant) :
    opinion ⟨.ofOneOf allowed, .number n, key, now⟩ =
      failIf (!allowed.any fun candidate => allows candidate (.number n)) := by
  let check : Check := ⟨.ofOneOf allowed, .number n, key, now⟩
  let others : List Condition :=
    [maxLength, minLength, xMaxLength, xMinLength, noValue, maximum, minimum, pattern]
  have parts : conditions = others ++ [oneOf] := rfl
  have silent : firstOpinion others check = none := rfl
  have listed : oneOf check = failIf (!allowed.any fun candidate => allows candidate (.number n)) := rfl
  rw [opinion, parts, firstOpinion_append, silent, Option.none_or, firstOpinion, List.findSome?_cons, listed]
  cases allowed.any fun candidate => allows candidate (.number n) <;> rfl

end Basic

namespace Lifecycle

theorem verdict_ofOneOf (header : String) (now : Instant) (n : Number) (allowed : List Json)
    (key : Option String) :
    verdict header now (.number n) (.ofOneOf allowed) key =
      if allowed.any fun candidate => Basic.allows candidate (.number n) then .pass else .fail := by
  let check : Check := ⟨.ofOneOf allowed, .number n, key, now⟩
  have required : Validator.requiredOpinion check = none := rfl
  have token : Validator.tokenOpinion (Validator.tokenHeader header) check = none := rfl
  have items : Validator.arrayOpinion (fun item => verdict header now item (.ofOneOf allowed) none == .fail)
      (.ofOneOf allowed) (.number n) = none := rfl
  rw [verdict_eq, required, token, items, Basic.opinion_ofOneOf, Option.none_or, Option.none_or,
    Option.none_or]
  cases allowed.any fun candidate => Basic.allows candidate (.number n) <;> rfl

def PassesEnum (lifecycle : Lifecycle Unit) (now : Instant) (key : Option String) (allowed : List Int)
    (n : Int) : Prop :=
  lifecycle.outcome now (.ofInt n) (.ofOneOf (allowed.map Json.ofInt)) key = .pass

theorem passesEnum_iff (header : String) (now : Instant) (key : Option String) {allowed : List Int} {n : Int}
    (listed : ∀ m ∈ allowed, Number.InRange m) (inRange : Number.InRange n) :
    (withHeader header).PassesEnum now key allowed n ↔
      ∃ m ∈ allowed, Number.nearest m = Number.nearest n := by
  have compares {m : Int} (member : m ∈ allowed) :
      Basic.allows (.ofInt m) (.ofInt n) = true ↔ Number.nearest m = Number.nearest n :=
    Number.toFloat_beq_iff (listed m member) inRange
  have passes : (withHeader header).PassesEnum now key allowed n ↔
      ∃ m ∈ allowed, Basic.allows (.ofInt m) (.ofInt n) = true := by
    rw [PassesEnum, outcome_withHeader, Json.ofInt, verdict_ofOneOf]
    simp [List.any_map]
  rw [passes]
  exact exists_congr fun m => and_congr_right compares

/-- An integer passes an enumeration of integers exactly if a listed one becomes the same double. So every
enumeration is exact on the integer if it has at most 53 bits, or if it has 54 bits and leaves two when divided
by four; for any other integer there is one that lists another in its place. -/
theorem integer_enum_passes_iff (header : String) (now : Instant) (key : Option String) {n : Int}
    (inRange : Number.InRange n) :
    (∀ allowed : List Int, (∀ m ∈ allowed, Number.InRange m) →
      ((withHeader header).PassesEnum now key allowed n ↔
        ∃ m ∈ allowed, Number.nearest m = Number.nearest n)) ∧
    ((∀ allowed : List Int, (∀ m ∈ allowed, Number.InRange m) →
        ((withHeader header).PassesEnum now key allowed n ↔ n ∈ allowed)) ↔
      n.natAbs < 2 ^ 53 ∨ n.natAbs < 2 ^ 54 ∧ n.natAbs % 4 = 2) := by
  have passes (allowed : List Int) (listed : ∀ m ∈ allowed, Number.InRange m) :=
    passesEnum_iff header now key listed inRange
  refine ⟨passes, Iff.trans ?_ (Number.alone_iff inRange)⟩
  constructor
  · intro isExact m mInRange same
    have listed : ∀ listed ∈ [m], Number.InRange listed := by
      intro other member
      rwa [List.mem_singleton.mp member]
    have accepted := (passes [m] listed).mpr ⟨m, .head _, same⟩
    exact (List.mem_singleton.mp ((isExact [m] listed).mp accepted)).symm
  · intro alone allowed listed
    rw [passes allowed listed]
    constructor
    · rintro ⟨m, member, same⟩
      rwa [← alone m (listed m member) same]
    · intro member
      exact ⟨n, member, rfl⟩

end Lifecycle

namespace Tickets

theorem tickets_told_apart :
    Number.InRange 9007199254740993 ∧ Number.InRange 9007199254740994 ∧
      (Lifecycle.withHeader "x-auth-token").PassesEnum ⟨0, 0⟩ none [9007199254740992] 9007199254740993 ∧
      ¬ (Lifecycle.withHeader "x-auth-token").PassesEnum ⟨0, 0⟩ none [9007199254740992] 9007199254740994 := by
  have listed : ∀ m ∈ [9007199254740992], Number.InRange m := by decide
  refine ⟨by decide, by decide, ?taken, ?apart⟩
  case taken =>
    have passes := (Lifecycle.integer_enum_passes_iff "x-auth-token" ⟨0, 0⟩ none
      (n := 9007199254740993) (by decide)).1
    exact (passes _ listed).mpr ⟨9007199254740992, .head _, by decide⟩
  case apart =>
    have isExact := (Lifecycle.integer_enum_passes_iff "x-auth-token" ⟨0, 0⟩ none
      (n := 9007199254740994) (by decide)).2.mpr (.inr (by decide))
    rw [isExact _ listed]
    decide

/-- The enumeration of one ticket lets another one pass. -/
theorem other_ticket_passes :
    (∀ m ∈ [9007199254740992], Number.InRange m) ∧ Number.InRange 9007199254740993 ∧
      (Lifecycle.default : Lifecycle Unit).outcome ⟨0, 0⟩ (.ofInt 9007199254740993)
        (.ofOneOf [.ofInt 9007199254740992]) none = .pass ∧
      (9007199254740993 : Int) ∉ [9007199254740992] := by
  have listed : ∀ m ∈ [9007199254740992], Number.InRange m := by decide
  have accepted : (Lifecycle.withHeader Lifecycle.defaultTokenHeader).PassesEnum ⟨0, 0⟩ none
      [9007199254740992] 9007199254740993 :=
    (Lifecycle.passesEnum_iff _ _ _ listed (by decide)).mpr ⟨9007199254740992, .head _, by decide⟩
  exact ⟨listed, by decide, accepted, by decide⟩

end Tickets

end WireContract

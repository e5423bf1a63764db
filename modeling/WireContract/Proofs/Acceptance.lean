import WireContract.Proofs.TokenGate

namespace WireContract

namespace RuleSet

def Within (rules other : RuleSet) : Prop := other.extend rules = other

theorem Within.refl (rules : RuleSet) : rules.Within rules := extend_self rules

theorem Within.trans {first second third : RuleSet} (inner : first.Within second)
    (outer : second.Within third) : first.Within third := by
  calc
    third.extend first = (third.extend second).extend first := by rw [outer]
    _ = third.extend (second.extend first) := extend_assoc third second first
    _ = third := by rw [inner, outer]

theorem within_extend (rules other : RuleSet) : rules.Within (other.extend rules) := by
  rw [Within, extend_assoc, extend_self]

def AllowsCount (rules : RuleSet) (count : Nat) : Prop :=
  (∀ limit, rules.maxItems = some limit → count ≤ limit) ∧
    ∀ limit, rules.minItems = some limit → limit ≤ count

theorem AllowsCount.of_extend {rules other : RuleSet} {count : Nat}
    (allowed : (other.extend rules).AllowsCount count) : rules.AllowsCount count := by
  refine ⟨fun limit isLimit => allowed.1 limit ?_, fun limit isLimit => allowed.2 limit ?_⟩ <;>
    simp [extend, isLimit]

theorem isRequired_extend {rules : RuleSet} (other : RuleSet) (required : rules.isRequired = true) :
    (other.extend rules).isRequired = true := by
  simp only [isRequired, beq_iff_eq] at required ⊢
  simp [extend, required]

def AllowsLength (rules : RuleSet) (length : Nat) : Prop :=
  (∀ limit, rules.maxLength = some limit ∨ rules.xMaxLength = some limit → length ≤ limit) ∧
    ∀ limit, rules.minLength = some limit ∨ rules.xMinLength = some limit → limit ≤ length

def ofMaxLength (most : Nat) : RuleSet := { empty with maxLength := some most }

def Lists (rules : RuleSet) (value : Json) : Prop :=
  ∀ allowed, rules.oneOf = some allowed → ∃ candidate ∈ allowed, Basic.allows candidate value = true

/-- What the rules ask of an array as a whole, its number of items apart: bounds on numbers and patterns
pass it over. -/
structure AllowsWhole (rules : RuleSet) (items : List Json) : Prop where
  length : rules.AllowsLength items.length
  listed : rules.Lists (.array items)

end RuleSet

theorem failIf_eq_none_iff (rejected : Bool) : failIf rejected = none ↔ rejected = false := by
  cases rejected <;> simp [failIf]

namespace Basic

def lengths : List Condition := [maxLength, minLength, xMaxLength, xMinLength]

def contents : List Condition := [maximum, minimum, pattern, oneOf]

theorem conditions_eq : conditions = lengths ++ noValue :: contents := rfl

theorem longerThan_eq_none_iff (limit : Option Nat) (value : Json) :
    longerThan limit value = none ↔
      ∀ most length, limit = some most → value.length? = some length → length ≤ most := by
  unfold longerThan
  cases limit <;> cases value.length? <;> simp [failIf_eq_none_iff]

theorem shorterThan_eq_none_iff (limit : Option Nat) (value : Json) :
    shorterThan limit value = none ↔
      ∀ least length, limit = some least → value.length? = some length → least ≤ length := by
  unfold shorterThan
  cases limit <;> cases value.length? <;> simp [failIf_eq_none_iff]

theorem oneOf_eq_none_iff (check : Check) :
    oneOf check = none ↔ check.rules.Lists check.value := by
  unfold oneOf RuleSet.Lists
  cases check.rules.oneOf <;> simp [failIf_eq_none_iff]

/-- All conditions but the one on blank values reject or have no opinion. -/
theorem eq_none_or_fail_of_mem {condition : Condition} (member : condition ∈ lengths ++ contents)
    (check : Check) : condition check = none ∨ condition check = some .fail := by
  have rejects (rejected : Bool) : failIf rejected = none ∨ failIf rejected = some .fail := by
    cases rejected <;> simp [failIf]
  simp only [lengths, contents, List.cons_append, List.nil_append, List.mem_cons, List.not_mem_nil,
    or_false] at member
  rcases member with rfl | rfl | rfl | rfl | rfl | rfl | rfl | rfl
  all_goals
    first
      | unfold maxLength longerThan
      | unfold minLength shorterThan
      | unfold xMaxLength longerThan
      | unfold xMinLength shorterThan
      | unfold maximum
      | unfold minimum
      | unfold pattern
      | unfold oneOf
    split
    · exact rejects _
    · exact .inl rfl

theorem firstOpinion_append (front back : List Condition) (check : Check) :
    firstOpinion (front ++ back) check = (firstOpinion front check).or (firstOpinion back check) := by
  simp [firstOpinion, List.findSome?_append]

theorem firstOpinion_eq_none_iff (all : List Condition) (check : Check) :
    firstOpinion all check = none ↔ ∀ condition ∈ all, condition check = none := by
  simp [firstOpinion]

theorem firstOpinion_none_or_fail (all : List Condition) (check : Check)
    (rejecting : ∀ condition ∈ all, condition check = none ∨ condition check = some .fail) :
    firstOpinion all check = none ∨ firstOpinion all check = some .fail := by
  cases decided : firstOpinion all check with
  | none => exact .inl rfl
  | some outcome =>
    obtain ⟨condition, member, isOpinion⟩ := List.exists_of_findSome?_eq_some decided
    rcases rejecting condition member with silent | rejected
    · rw [silent] at isOpinion
      contradiction
    · rw [rejected] at isOpinion
      exact .inr isOpinion.symm

theorem opinion_ne_fail_iff (check : Check) :
    opinion check ≠ some .fail ↔
      (∀ condition ∈ lengths, condition check = none) ∧
        (check.value.isBlank = true ∨ ∀ condition ∈ contents, condition check = none) := by
  have onBlank : firstOpinion (noValue :: contents) check =
      if check.value.isBlank then some .pass else firstOpinion contents check := by
    cases blank : check.value.isBlank <;> simp [firstOpinion, noValue, blank]
  have ofLengths := firstOpinion_none_or_fail lengths check fun _ member =>
    eq_none_or_fail_of_mem (List.mem_append_left _ member) check
  have ofContents := firstOpinion_none_or_fail contents check fun _ member =>
    eq_none_or_fail_of_mem (List.mem_append_right _ member) check
  rw [← firstOpinion_eq_none_iff, ← firstOpinion_eq_none_iff, opinion, conditions_eq,
    firstOpinion_append, onBlank]
  rcases ofLengths with lengths | lengths <;> rcases ofContents with contents | contents <;>
    cases check.value.isBlank <;> simp [lengths, contents]

theorem eq_none_of_extend {condition : Condition} (member : condition ∈ lengths ++ contents)
    {other rules : RuleSet} {value : Json} {key : Option String} {now : Instant}
    (silent : condition ⟨other.extend rules, value, key, now⟩ = none) :
    condition ⟨rules, value, key, now⟩ = none := by
  simp only [lengths, contents, List.cons_append, List.nil_append, List.mem_cons, List.not_mem_nil,
    or_false] at member
  -- where the part lacks the rule nothing is asked, and where it has the rule the same is asked
  rcases member with rfl | rfl | rfl | rfl | rfl | rfl | rfl | rfl
  all_goals
    simp only [maxLength, minLength, xMaxLength, xMinLength, longerThan, shorterThan, maximum, minimum,
      pattern, oneOf, RuleSet.extend] at silent ⊢
    split
    · simp_all
    · rfl

end Basic

namespace Validator

theorem countOpinion_eq_none_iff (rules : RuleSet) (count : Nat) :
    countOpinion rules count = none ↔ rules.AllowsCount count := by
  unfold countOpinion RuleSet.AllowsCount
  cases rules.maxItems <;> cases rules.minItems <;> simp [failIf_eq_none_iff]

theorem arrayOpinion_eq_none_iff (rejects : Json → Bool) (rules : RuleSet) (value : Json) :
    arrayOpinion rejects rules value = none ↔
      ∀ items, value = .array items →
        rules.AllowsCount items.length ∧ ∀ item ∈ items, rejects item = false := by
  cases value with
  | array items =>
    simp [arrayOpinion, countOpinion_eq_none_iff, failIf_eq_none_iff]
  | _ => simp [arrayOpinion]

theorem arrayOpinion_none_or_fail (rejects : Json → Bool) (rules : RuleSet) (value : Json) :
    arrayOpinion rejects rules value = none ∨ arrayOpinion rejects rules value = some .fail := by
  cases value with
  | array items =>
    simp only [arrayOpinion, countOpinion]
    generalize items.any rejects = failed
    generalize rules.maxItems.any _ = tooMany
    generalize rules.minItems.any _ = tooFew
    cases tooMany <;> cases tooFew <;> cases failed <;> simp [failIf]
  | _ => exact .inl rfl

theorem requiredOpinion_eq_none_iff (check : Check) :
    requiredOpinion check = none ↔ (check.rules.isRequired = true → check.value.isNull = false) := by
  cases required : check.rules.isRequired <;>
    simp [requiredOpinion, failIf_eq_none_iff, required]

theorem requiredOpinion_none_or_fail (check : Check) :
    requiredOpinion check = none ∨ requiredOpinion check = some .fail := by
  unfold requiredOpinion failIf
  split <;> simp

theorem tokenOpinion_without_key (header : String) (value : Json) (rules : RuleSet) (now : Instant) :
    tokenOpinion header ⟨rules, value, none, now⟩ = none := by
  simp [tokenOpinion]

end Validator

namespace Lifecycle

def Accepts (lifecycle : Lifecycle Unit) (now : Instant) (value : Json) (rules : RuleSet) : Prop :=
  lifecycle.outcome now value rules none = .pass

variable (header : String) (now : Instant)

theorem accepts_withHeader (value : Json) (rules : RuleSet) :
    (withHeader header).Accepts now value rules ↔ verdict header now value rules none = .pass := by
  rw [Accepts, outcome_withHeader]

theorem verdict_ne_fail_iff_pass (value : Json) (rules : RuleSet) :
    verdict header now value rules none ≠ .fail ↔ verdict header now value rules none = .pass := by
  have never : verdict header now value rules none ≠ .unauthorized := by
    intro unauthorized
    cases (eq_token_of_verdict_unauthorized unauthorized).2.2.1
  cases decided : verdict header now value rules none <;> simp [decided] at never ⊢

/-- What rules ask of a value that does not come from a header. -/
structure Meets (value : Json) (rules : RuleSet) : Prop where
  present : rules.isRequired = true → value.isNull = false
  items : ∀ items, value = .array items →
    rules.AllowsCount items.length ∧ ∀ item ∈ items, verdict header now item rules none = .pass
  lengths : ∀ condition ∈ Basic.lengths, condition ⟨rules, value, none, now⟩ = none
  contents : value.isBlank = true ∨
    ∀ condition ∈ Basic.contents, condition ⟨rules, value, none, now⟩ = none

theorem getD_or_ne_fail_iff {first second last : Option Outcome}
    (one : first = none ∨ first = some .fail) (other : second = none ∨ second = some .fail) :
    (first.or (second.or last)).getD .pass ≠ .fail ↔
      first = none ∧ second = none ∧ last ≠ some .fail := by
  rcases one with rfl | rfl <;> rcases other with rfl | rfl <;> cases last <;> simp

theorem verdict_eq_pass_iff (value : Json) (rules : RuleSet) :
    verdict header now value rules none = .pass ↔ Meets header now value rules := by
  have onItems : (∀ items, value = .array items → rules.AllowsCount items.length ∧
        ∀ item ∈ items, (verdict header now item rules none == .fail) = false) ↔
      ∀ items, value = .array items → rules.AllowsCount items.length ∧
        ∀ item ∈ items, verdict header now item rules none = .pass := by
    simp [← verdict_ne_fail_iff_pass]
  rw [← verdict_ne_fail_iff_pass, verdict_eq, Validator.tokenOpinion_without_key, Option.none_or,
    getD_or_ne_fail_iff (Validator.requiredOpinion_none_or_fail _)
      (Validator.arrayOpinion_none_or_fail _ _ _),
    Validator.requiredOpinion_eq_none_iff, Validator.arrayOpinion_eq_none_iff,
    Basic.opinion_ne_fail_iff, onItems]
  constructor
  · rintro ⟨present, items, lengths, contents⟩
    exact ⟨present, items, lengths, contents⟩
  · rintro ⟨present, items, lengths, contents⟩
    exact ⟨present, items, lengths, contents⟩

theorem verdict_array_eq_pass_iff (items : List Json) (rules : RuleSet) :
    verdict header now (.array items) rules none = .pass ↔
      rules.AllowsCount items.length ∧
        (∀ item ∈ items, verdict header now item rules none = .pass) ∧ rules.AllowsWhole items := by
  have lengths : (∀ condition ∈ Basic.lengths, condition ⟨rules, .array items, none, now⟩ = none) ↔
      rules.AllowsLength items.length := by
    simp only [Basic.lengths, List.forall_mem_cons, Basic.maxLength, Basic.minLength, Basic.xMaxLength,
      Basic.xMinLength, Basic.longerThan_eq_none_iff, Basic.shorterThan_eq_none_iff, Json.length?,
      RuleSet.AllowsLength]
    grind
  have contents : (∀ condition ∈ Basic.contents, condition ⟨rules, .array items, none, now⟩ = none) ↔
      rules.Lists (.array items) := by
    have bounds : Basic.maximum ⟨rules, .array items, none, now⟩ = none ∧
        Basic.minimum ⟨rules, .array items, none, now⟩ = none := by
      simp only [Basic.maximum, Basic.minimum, Basic.numberOf?]
      constructor <;> split <;> simp_all
    have pattern : Basic.pattern ⟨rules, .array items, none, now⟩ = none := by
      simp only [Basic.pattern, Basic.textOf?]
      split <;> simp_all
    simp [Basic.contents, bounds, pattern, Basic.oneOf_eq_none_iff]
  rw [verdict_eq_pass_iff]
  constructor
  · rintro ⟨_, ofItems, ofLengths, ofContents⟩
    obtain ⟨counted, each⟩ := ofItems items rfl
    refine ⟨counted, each, lengths.mp ofLengths, contents.mp ?_⟩
    rcases ofContents with blank | silent
    · cases blank
    · exact silent
  · rintro ⟨counted, each, ⟨ofLengths, listed⟩⟩
    refine ⟨fun _ => rfl, ?_, lengths.mpr ofLengths, .inr (contents.mpr listed)⟩
    intro others same
    obtain rfl := Json.array.inj same
    exact ⟨counted, each⟩

theorem array_passes_maxLength {most : Nat} {items : List Json} (few : items.length ≤ most)
    (each : ∀ item ∈ items, verdict header now item (.ofMaxLength most) none = .pass) :
    verdict header now (.array items) (.ofMaxLength most) none = .pass := by
  have counted : (RuleSet.ofMaxLength most).AllowsCount items.length := by
    simp [RuleSet.ofMaxLength, RuleSet.AllowsCount, RuleSet.empty]
  have length : (RuleSet.ofMaxLength most).AllowsLength items.length := by
    simpa [RuleSet.ofMaxLength, RuleSet.AllowsLength, RuleSet.empty] using few
  have listed : (RuleSet.ofMaxLength most).Lists (.array items) := by
    intro _ isListed
    cases isListed
  exact (verdict_array_eq_pass_iff _ _ _ _).mpr ⟨counted, each, length, listed⟩

/-- What passes rules passes any part of them. -/
theorem pass_of_within {rules other : RuleSet} (within : rules.Within other) (value : Json)
    (passed : verdict header now value other none = .pass) :
    verdict header now value rules none = .pass := by
  rw [← within] at passed
  -- the items of an array are asked for the same rules, so that the induction is on the value
  induction size : sizeOf value using Nat.strongRecOn generalizing value with
  | ind size ih =>
    subst size
    obtain ⟨present, items, lengths, contents⟩ := (verdict_eq_pass_iff _ _ _ _).mp passed
    refine (verdict_eq_pass_iff _ _ _ _).mpr ⟨?_, ?_, ?_, ?_⟩
    · intro required
      exact present (RuleSet.isRequired_extend other required)
    · intro all isArray
      obtain ⟨counted, each⟩ := items all isArray
      refine ⟨counted.of_extend, fun item member => ?_⟩
      subst isArray
      exact ih _ (Json.sizeOf_lt_of_mem_array member) item (each item member) rfl
    · intro condition member
      exact Basic.eq_none_of_extend (List.mem_append_left _ member) (lengths condition member)
    · rcases contents with blank | silent
      · exact .inl blank
      · refine .inr fun condition member => ?_
        exact Basic.eq_none_of_extend (List.mem_append_right _ member) (silent condition member)

theorem verdict_of_not_array {value : Json} (scalar : ∀ items, value ≠ .array items)
    (rules : RuleSet) (most least : Option Nat) :
    verdict header now value { rules with maxItems := most, minItems := least } none =
      verdict header now value rules none := by
  have noItems (rejects : Json → Bool) (rules : RuleSet) :
      Validator.arrayOpinion rejects rules value = none := by
    cases value with
    | array items => exact absurd rfl (scalar items)
    | _ => rfl
  rw [verdict_eq, verdict_eq, noItems, noItems]
  rfl

/-- What a path leads to in an accepted body has passed the rules there. -/
theorem pass_of_resolved {model : CheckModel} {request : Request}
    (passed : (withHeader header).validate now model request = .pass) {path : String} {value : Json}
    (resolved : value ∈ BodyPath.resolve (BodyPath.segments path) request.body) :
    verdict header now value (model.rulesAt .body path) none = .pass := by
  rw [validate_withHeader] at passed
  have body := ((Judge.request_eq_pass_iff _ model request).mp passed).2.2.2
  cases present : model.rules? .body path with
  | none =>
    rw [CheckModel.rulesAt, present]
    exact verdict_empty header now value none
  | some rules =>
    rw [CheckModel.rulesAt, present]
    have lenient := (Judge.rejects_eq_false_iff _ _ model .body).mp body path rules present
    exact (verdict_ne_fail_iff_pass _ _ _ _).mp (lenient value resolved)

end Lifecycle
end WireContract

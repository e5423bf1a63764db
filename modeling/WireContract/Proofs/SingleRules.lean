import WireContract.Mapping.Conversion
import WireContract.Proofs.Acceptance

/-!
Rule sets rule by rule. Every condition reads a single rule, so that a value passes a set of rules exactly
when it passes each of them alone, and a check rule by rule fails where the check of all rules does. Main
statement: `outcome_eq_pass_iff_each`.
-/

namespace WireContract

/-- The condition looks at one rule alone, and has no opinion where it is absent. -/
structure Condition.Reads (condition : Condition) (rule : Rule) : Prop where
  only : ∀ rules value key now,
    condition ⟨rules.only rule, value, key, now⟩ = condition ⟨rules, value, key, now⟩
  silent : ∀ rules value key now, rules.has rule = false →
    condition ⟨rules, value, key, now⟩ = none

theorem Condition.Reads.eq_none_iff {condition : Condition} {rule : Rule}
    (reads : condition.Reads rule) (rules : RuleSet) (value : Json) (key : Option String)
    (now : Instant) :
    condition ⟨rules, value, key, now⟩ = none ↔
      ∀ other ∈ rules.keys, condition ⟨rules.only other, value, key, now⟩ = none := by
  constructor
  · intro silent other isRule
    by_cases same : other = rule
    · subst same
      rw [reads.only]
      exact silent
    · apply reads.silent
      rw [RuleSet.has_only]
      simp [Ne.symm same]
  · intro each
    cases present : rules.has rule with
    | false => exact reads.silent _ _ _ _ present
    | true =>
      rw [← reads.only]
      exact each rule (RuleSet.mem_keys.mpr present)

namespace RuleSet

theorem only_within (rules : RuleSet) (rule : Rule) : (rules.only rule).Within rules := by
  cases rule <;> simp [Within, extend, only, restrict]

theorem allowsCount_iff (rules : RuleSet) (count : Nat) :
    rules.AllowsCount count ↔ ∀ rule ∈ rules.keys, (rules.only rule).AllowsCount count := by
  constructor
  · intro allowed rule _
    have within := rules.only_within rule
    rw [Within] at within
    rw [← within] at allowed
    exact allowed.of_extend
  · intro each
    constructor
    · intro limit isLimit
      have present : Rule.maxItems ∈ rules.keys := mem_keys.mpr (by simp [has, isLimit])
      exact (each _ present).1 limit isLimit
    · intro limit isLimit
      have present : Rule.minItems ∈ rules.keys := mem_keys.mpr (by simp [has, isLimit])
      exact (each _ present).2 limit isLimit

end RuleSet

namespace Basic

theorem exists_reads {condition : Condition} (member : condition ∈ lengths ++ contents) :
    ∃ rule, condition.Reads rule := by
  simp only [lengths, contents, List.cons_append, List.nil_append, List.mem_cons, List.not_mem_nil,
    or_false] at member
  rcases member with rfl | rfl | rfl | rfl | rfl | rfl | rfl | rfl
  · refine ⟨.maxLength, fun _ _ _ _ => rfl, fun rules _ _ _ absent => ?_⟩
    simp_all [RuleSet.has, maxLength, longerThan]
  · refine ⟨.minLength, fun _ _ _ _ => rfl, fun rules _ _ _ absent => ?_⟩
    simp_all [RuleSet.has, minLength, shorterThan]
  · refine ⟨.xMaxLength, fun _ _ _ _ => rfl, fun rules _ _ _ absent => ?_⟩
    simp_all [RuleSet.has, xMaxLength, longerThan]
  · refine ⟨.xMinLength, fun _ _ _ _ => rfl, fun rules _ _ _ absent => ?_⟩
    simp_all [RuleSet.has, xMinLength, shorterThan]
  · refine ⟨.maximum, fun _ _ _ _ => rfl, fun rules _ _ _ absent => ?_⟩
    simp_all [RuleSet.has, maximum]
  · refine ⟨.minimum, fun _ _ _ _ => rfl, fun rules _ _ _ absent => ?_⟩
    simp_all [RuleSet.has, minimum]
  · refine ⟨.pattern, fun _ _ _ _ => rfl, fun rules _ _ _ absent => ?_⟩
    simp_all [RuleSet.has, pattern]
  · refine ⟨.oneOf, fun _ _ _ _ => rfl, fun rules _ _ _ absent => ?_⟩
    simp_all [RuleSet.has, oneOf]

end Basic

namespace Validator

theorem requiredOpinion_reads : Condition.Reads requiredOpinion .required := by
  refine ⟨fun _ _ _ _ => rfl, fun rules _ _ _ absent => ?_⟩
  simp_all [RuleSet.has, requiredOpinion, RuleSet.isRequired, failIf]

theorem tokenOpinion_reads (header : String) : Condition.Reads (tokenOpinion header) .required := by
  refine ⟨fun _ _ _ _ => rfl, fun rules _ _ _ absent => ?_⟩
  simp_all [RuleSet.has, tokenOpinion, RuleSet.isRequired]

theorem tokenOpinion_none_or_unauthorized (header : String) (check : Check) :
    tokenOpinion header check = none ∨ tokenOpinion header check = some .unauthorized := by
  unfold tokenOpinion
  split
  · exact .inl rfl
  · split
    · split <;> simp
    · exact .inr rfl

end Validator

namespace Lifecycle

variable (header : String) (now : Instant)

theorem verdict_eq_pass_iff_token (value : Json) (rules : RuleSet) (key : Option String) :
    verdict header now value rules key = .pass ↔
      Validator.tokenOpinion (Validator.tokenHeader header) ⟨rules, value, key, now⟩ = none ∧
        verdict header now value rules none = .pass := by
  have required : Validator.requiredOpinion ⟨rules, value, key, now⟩ =
      Validator.requiredOpinion ⟨rules, value, none, now⟩ := rfl
  have basic : Basic.opinion ⟨rules, value, key, now⟩ = Basic.opinion ⟨rules, value, none, now⟩ := rfl
  rw [verdict_eq, verdict_eq header now value rules none, required, basic,
    Validator.tokenOpinion_without_key, Option.none_or]
  rcases Validator.requiredOpinion_none_or_fail ⟨rules, value, none, now⟩ with missing | missing <;>
    rcases Validator.tokenOpinion_none_or_unauthorized (Validator.tokenHeader header)
      ⟨rules, value, key, now⟩ with token | token <;>
    simp [missing, token]

theorem verdict_none_eq_pass_iff_each (value : Json) (rules : RuleSet) :
    verdict header now value rules none = .pass ↔
      ∀ rule ∈ rules.keys, verdict header now value (rules.only rule) none = .pass := by
  refine ⟨fun passed rule _ => pass_of_within header now (rules.only_within rule) value passed, ?_⟩
  -- the items of an array are asked for the same rules, so that the induction is on the value
  induction size : sizeOf value using Nat.strongRecOn generalizing value with
  | ind size ih =>
    subst size
    intro each
    have meets (rule : Rule) (isRule : rule ∈ rules.keys) :
        Meets header now value (rules.only rule) :=
      (verdict_eq_pass_iff header now value (rules.only rule)).mp (each rule isRule)
    refine (verdict_eq_pass_iff header now value rules).mpr ⟨?present, ?items, ?lengths, ?contents⟩
    case present =>
      have silent := (Validator.requiredOpinion_reads.eq_none_iff rules value none now).mpr
        fun rule isRule => (Validator.requiredOpinion_eq_none_iff _).mpr (meets rule isRule).present
      exact (Validator.requiredOpinion_eq_none_iff _).mp silent
    case items =>
      intro items isArray
      refine ⟨(rules.allowsCount_iff items.length).mpr fun rule isRule =>
        ((meets rule isRule).items items isArray).1, ?_⟩
      intro item member
      subst isArray
      exact ih _ (Json.sizeOf_lt_of_mem_array member) item rfl fun rule isRule =>
        ((meets rule isRule).items items rfl).2 item member
    case lengths =>
      intro condition member
      obtain ⟨_, reads⟩ := Basic.exists_reads (List.mem_append_left _ member)
      exact (reads.eq_none_iff rules value none now).mpr fun rule isRule =>
        (meets rule isRule).lengths condition member
    case contents =>
      cases blank : value.isBlank with
      | true => exact .inl rfl
      | false =>
        refine .inr fun condition member => ?_
        obtain ⟨_, reads⟩ := Basic.exists_reads (List.mem_append_right _ member)
        refine (reads.eq_none_iff rules value none now).mpr fun rule isRule => ?_
        rcases (meets rule isRule).contents with isBlank | silent
        · rw [blank] at isBlank
          cases isBlank
        · exact silent condition member

theorem verdict_eq_pass_iff_each (value : Json) (rules : RuleSet) (key : Option String) :
    verdict header now value rules key = .pass ↔
      ∀ rule ∈ rules.keys, verdict header now value (rules.only rule) key = .pass := by
  rw [verdict_eq_pass_iff_token, verdict_none_eq_pass_iff_each,
    (Validator.tokenOpinion_reads _).eq_none_iff]
  simp only [verdict_eq_pass_iff_token header now value _ key]
  exact ⟨fun both rule isRule => ⟨both.1 rule isRule, both.2 rule isRule⟩,
    fun both => ⟨fun rule isRule => (both rule isRule).1, fun rule isRule => (both rule isRule).2⟩⟩

end Lifecycle

namespace Json

def IsLeaf : Json → Prop
  | .array _ => False
  | .object _ => False
  | _ => True

end Json

namespace Tables

variable {κ : Type} (tables : Tables κ) (outcome : Json → RuleSet → Outcome)

theorem failuresAt_append (table : Option (Table κ)) (front back : List (String × Json)) :
    tables.failuresAt outcome table (front ++ back) =
      tables.failuresAt outcome table front ++ tables.failuresAt outcome table back := by
  induction front with
  | nil => simp [failuresAt]
  | cons first rest ih =>
    rw [List.cons_append, failuresAt.eq_def, failuresAt.eq_def _ _ _ (first :: rest)]
    simp only [ih, List.append_assoc]

/-- What the checks of one leaf report stands between the reports on the members around it. -/
theorem failures_of_leaf {table : Table κ} {front back : List (String × Json)} {key : String}
    {leaf : Json} (isLeaf : leaf.IsLeaf) {property : Property κ}
    (isProperty : table.property? key = some property) {check : ValueCheck}
    (isCheck : property.check = some check) :
    tables.failures outcome (some table) (.object (front ++ (key, leaf) :: back)) =
      tables.failuresAt outcome (some table) front ++
        (failuresOf outcome property.wireName leaf check ++
          tables.failuresAt outcome (some table) back) := by
  rw [failures, failuresAt_append, failuresAt.eq_def _ _ _ ((key, leaf) :: back)]
  cases leaf with
  | array _ => cases isLeaf
  | object _ => cases isLeaf
  | _ => simp [isProperty, isCheck]

theorem failuresOf_eq_nil_iff (field : String) (value : Json) (rules : RuleSet) :
    failuresOf outcome field value (.rules rules) = [] ↔
      ∀ rule ∈ rules.keys, outcome value (rules.only rule) ≠ .fail := by
  simp [failuresOf]

end Tables

namespace Lifecycle

/-- With the built-in rules a value passes a set of rules exactly when it passes each of them alone. So
the check of a leaf on its way out, rule by rule, reports a failure exactly when the leaf fails the check
of all rules. -/
theorem outcome_eq_pass_iff_each (header : String) (now : Instant) :
    (∀ value rules key, (withHeader header).outcome now value rules key = .pass ↔
      ∀ rule ∈ rules.keys,
        (withHeader header).outcome now value (rules.only rule) key = .pass) ∧
    ∀ (κ : Type) (tables : Tables κ) (table : Table κ) (front back : List (String × Json))
      (key : String) (leaf : Json) (property : Property κ) (rules : RuleSet),
      leaf.IsLeaf → table.property? key = some property → property.check = some (.rules rules) →
      let outcome := fun value rules => (withHeader header).outcome now value rules none
      ∃ reports,
        tables.failures outcome (some table) (.object (front ++ (key, leaf) :: back)) =
          tables.failuresAt outcome (some table) front ++
            (reports ++ tables.failuresAt outcome (some table) back) ∧
        (reports ≠ [] ↔ outcome leaf rules = .fail) ∧
        ∀ report ∈ reports, report.field = property.wireName ∧
          ∃ rule ∈ rules.keys, report.rule = some rule ∧
            outcome leaf (rules.only rule) = .fail := by
  refine ⟨?conjunction, ?reports⟩
  case conjunction =>
    intro value rules key
    simp only [outcome_withHeader]
    exact verdict_eq_pass_iff_each header now value rules key
  case reports =>
    intro κ tables table front back key leaf property rules isLeaf isProperty isCheck outcome
    refine ⟨_, tables.failures_of_leaf outcome isLeaf isProperty isCheck, ?_, ?_⟩
    · have passes : outcome leaf rules ≠ .fail ↔
          ∀ rule ∈ rules.keys, outcome leaf (rules.only rule) ≠ .fail := by
        simp only [outcome, outcome_withHeader, verdict_ne_fail_iff_pass]
        exact verdict_none_eq_pass_iff_each header now leaf rules
      rw [Ne, Tables.failuresOf_eq_nil_iff, ← passes, Classical.not_not]
    · intro report isReport
      simp only [Tables.failuresOf, List.mem_map, List.mem_filter, beq_iff_eq] at isReport
      obtain ⟨rule, ⟨isRule, fails⟩, rfl⟩ := isReport
      exact ⟨rfl, rule, isRule, rfl, fails⟩

end Lifecycle

namespace Nicknames

def rules : RuleSet := { RuleSet.ofMaxLength 2 with required := some true }

def property : Property Unit :=
  { Property.new "nick_name" with
    rename := some "nickName"
    check := some (.rules rules) }

def table : Table Unit := .ofProperties "Nicknames" [property]

def outcome (value : Json) (rules : RuleSet) : Outcome :=
  (Lifecycle.withHeader Lifecycle.defaultTokenHeader).outcome ⟨0, 0⟩ value rules none

theorem long_fails : outcome (.string "abc") rules = .fail := by
  rw [outcome, Lifecycle.outcome_withHeader, Lifecycle.verdict_eq]
  decide

theorem long_is_there : outcome (.string "abc") (rules.only .required) = .pass := by
  rw [outcome, Lifecycle.outcome_withHeader, Lifecycle.verdict_eq]
  decide

theorem long_nickname_reported :
    rules.keys = [.required, .maxLength] ∧ (rules.only .required).has .maxLength = false ∧
      ∃ reports ≠ [], Tables.failures (fun _ => table) outcome (some table)
          (.object [("nick_name", .string "abc")]) = reports ∧
        ∀ report ∈ reports, report.field = "nickName" ∧ report.rule = some .maxLength := by
  have reported := (Lifecycle.outcome_eq_pass_iff_each Lifecycle.defaultTokenHeader ⟨0, 0⟩).2 Unit
    (fun _ => table) table [] [] "nick_name" (.string "abc") property rules trivial rfl rfl
  obtain ⟨reports, isReports, fails, named⟩ := reported
  have keys : rules.keys = [.required, .maxLength] := rfl
  have apart : (rules.only .required).has .maxLength = false := RuleSet.has_only rules _ _
  simp only [Tables.failuresAt, List.nil_append, List.append_nil] at isReports
  refine ⟨keys, apart, reports, fails.mpr long_fails, isReports, fun report isReport => ?_⟩
  obtain ⟨isField, rule, isRule, isNamed, failsAlone⟩ := named report isReport
  rw [keys] at isRule
  rcases List.mem_cons.mp isRule with rfl | later
  · cases long_is_there.symm.trans failsAlone
  · obtain rfl := List.mem_singleton.mp later
    exact ⟨isField, isNamed⟩

end Nicknames

end WireContract

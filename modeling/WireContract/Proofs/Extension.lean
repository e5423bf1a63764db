import WireContract.Proofs.Requirement

namespace WireContract

namespace RuleSet

theorem only_extend (rules other : RuleSet) (rule : Rule) :
    (rules.extend other).only rule =
      if other.has rule then other.only rule else rules.only rule := by
  have written {α : Type} (new old : Option α) :
      new.or old = if new.isSome then new else old := by
    cases new <;> rfl
  cases rule <;> simp [only, restrict, extend, has, written] <;> split <;> rfl

/-- A rule is carried that is recorded: any, but `required` only if it is on. -/
def Carries (rules : RuleSet) : Prop :=
  ∃ rule, rules.has rule = true ∧ (rule = .required → rules.required = some true)

end RuleSet

namespace Parser

theorem has_recorded (keywords : RuleSet) (rule : Rule) :
    (recorded keywords).has rule = true ↔
      keywords.has rule = true ∧ (rule = .required → keywords.required = some true) := by
  cases rule with
  | required =>
    cases given : keywords.required with
    | none => simp [recorded, RuleSet.has, RuleSet.isRequired, given]
    | some isOn => cases isOn <;> simp [recorded, RuleSet.has, RuleSet.isRequired, given]
  | _ => simp [recorded, RuleSet.has]

theorem carries_iff (keywords : RuleSet) :
    keywords.Carries ↔ (recorded keywords).isEmpty = false := by
  rw [RuleSet.isEmpty, List.isEmpty_eq_false_iff_exists_mem]
  simp only [RuleSet.mem_keys, has_recorded, RuleSet.Carries]

theorem only_recorded (keywords : RuleSet) {rule : Rule} (copied : rule ≠ .required) :
    (recorded keywords).only rule = keywords.only rule := by
  cases rule with
  | required => exact absurd rfl copied
  | _ => rfl

theorem has_recorded_of_ne (keywords : RuleSet) {rule : Rule} (copied : rule ≠ .required) :
    (recorded keywords).has rule = keywords.has rule := by
  cases rule with
  | required => exact absurd rfl copied
  | _ => rfl

end Parser

namespace Reached

def lastCarrying (location : Location) (path : String) (rule : Rule) (fields : List Reached) :
    Option Reached :=
  (fields.filter fun field => field.isAt location path && field.keywords.has rule).getLast?

theorem lastCarrying_append (location : Location) (path : String) (rule : Rule)
    (front back : List Reached) :
    lastCarrying location path rule (front ++ back) =
      (lastCarrying location path rule back).or (lastCarrying location path rule front) := by
  rw [lastCarrying, List.filter_append, List.getLast?_append]
  rfl

theorem lastCarrying_singleton (location : Location) (path : String) (rule : Rule) (field : Reached) :
    lastCarrying location path rule [field] =
      if field.isAt location path && field.keywords.has rule then some field else none := by
  rw [lastCarrying, List.filter_cons]
  split <;> rfl

end Reached

namespace CheckModel

/-- What fields that are folded in one after another make of a model. -/
structure Extends (before : CheckModel) (fields : List Reached) (after : CheckModel) : Prop where
  keeps : ∀ location path rules, before.rules? location path = some rules →
    ∃ more, after.rules? location path = some more ∧ ∀ rule, rules.has rule = true → more.has rule = true
  elsewhere : ∀ location path, (∀ field ∈ fields, ¬ field.isAt location path = true) →
    after.rules? location path = before.rules? location path
  enters : ∀ location path, before.rules? location path = none →
    ((after.rules? location path).isSome = true ↔
      ∃ field ∈ fields, field.isAt location path = true ∧ field.keywords.Carries)
  requires : ∀ location path,
    (after.rulesAt location path).required = some true ↔
      (before.rulesAt location path).required = some true ∨
        ∃ field ∈ fields, field.isAt location path = true ∧ field.keywords.required = some true
  /-- `required` apart, each rule has the value of the last field there that carries it. -/
  last : ∀ location path rule, rule ≠ .required →
    (after.rulesAt location path).only rule =
      match Reached.lastCarrying location path rule fields with
      | some field => field.keywords.only rule
      | none => (before.rulesAt location path).only rule

namespace Extends

variable {before middle after : CheckModel} {front back : List Reached}

theorem refl (model : CheckModel) : model.Extends [] model where
  keeps := fun _ _ rules isRules => ⟨rules, isRules, fun _ isThere => isThere⟩
  elsewhere := fun _ _ _ => rfl
  enters := fun location path absent => by simp [absent]
  requires := fun location path => by simp
  last := fun _ _ _ _ => rfl

theorem record (model : CheckModel) (field : Reached) : model.Extends [field] (Parser.record model field) where
  keeps := by
    intro location path rules isRules
    have there : model.rulesAt location path = rules := by rw [rulesAt, isRules]; rfl
    rw [rules?_record, there]
    split
    · refine ⟨_, rfl, fun rule isRule => ?_⟩
      rw [RuleSet.has_extend, isRule, Bool.true_or]
    · exact ⟨rules, isRules, fun _ isRule => isRule⟩
  elsewhere := by
    intro location path nowhere
    have notHere := eq_false_of_ne_true (nowhere field (.head _))
    rw [rules?_record, notHere, Bool.false_and, if_neg Bool.false_ne_true]
  enters := by
    intro location path absent
    rw [rules?_record]
    simp only [List.mem_singleton, exists_eq_left, Parser.carries_iff]
    cases field.isAt location path <;> cases (Parser.recorded field.keywords).isEmpty <;> simp [absent]
  requires := by
    intro location path
    rw [rulesAt_record]
    cases here : field.isAt location path with
    | true =>
      have step := Reached.isRequired_extend_recorded (model.rulesAt location path) field.keywords
      simpa [RuleSet.isRequired, here] using congrArg (· = true) step
    | false => simp [here]
  last := by
    intro location path rule copied
    rw [rulesAt_record, Reached.lastCarrying_singleton]
    cases here : field.isAt location path with
    | true =>
      rw [if_pos rfl, RuleSet.only_extend, Parser.has_recorded_of_ne _ copied,
        Parser.only_recorded _ copied, Bool.true_and]
      cases field.keywords.has rule <;> rfl
    | false => rfl

theorem trans (first : before.Extends front middle) (second : middle.Extends back after) :
    before.Extends (front ++ back) after where
  keeps := by
    intro location path rules isRules
    obtain ⟨more, isMore, kept⟩ := first.keeps location path rules isRules
    obtain ⟨most, isMost, keptToo⟩ := second.keeps location path more isMore
    exact ⟨most, isMost, fun rule isRule => keptToo rule (kept rule isRule)⟩
  elsewhere := by
    intro location path nowhere
    have inBack : ∀ field ∈ back, ¬ field.isAt location path = true :=
      fun field member => nowhere field (List.mem_append_right front member)
    have inFront : ∀ field ∈ front, ¬ field.isAt location path = true :=
      fun field member => nowhere field (List.mem_append_left back member)
    rw [second.elsewhere location path inBack, first.elsewhere location path inFront]
  enters := by
    intro location path absent
    have entered := first.enters location path absent
    simp only [List.mem_append, or_and_right, exists_or]
    cases between : middle.rules? location path with
    | none =>
      rw [between] at entered
      rw [← entered, second.enters location path between]
      simp
    | some rules =>
      obtain ⟨more, isMore, _⟩ := second.keeps location path rules between
      rw [between] at entered
      rw [← entered, isMore]
      simp
  requires := by
    intro location path
    rw [second.requires, first.requires]
    simp only [List.mem_append, or_and_right, exists_or, or_assoc]
  last := by
    intro location path rule copied
    rw [second.last location path rule copied, first.last location path rule copied,
      Reached.lastCarrying_append]
    cases Reached.lastCarrying location path rule back <;> rfl

end Extends
end CheckModel

namespace Lifecycle

variable {σ : Type}

def compileAll (lifecycle : Lifecycle σ) (model : CheckModel) :
    List Reached → StateM σ (CheckModel × Lifecycle σ)
  | [] => return (model, lifecycle)
  | reached :: rest => do
    let (model, lifecycle) ← lifecycle.compile model reached
    lifecycle.compileAll model rest

theorem compileAll_extends (header : String) (model : CheckModel) (fields : List Reached) (notes : σ) :
    ∃ after, ((withHeader header : Lifecycle σ).compileAll model fields).run notes =
      ((after, withHeader header), notes) ∧ model.Extends fields after := by
  induction fields generalizing model with
  | nil => exact ⟨model, rfl, .refl model⟩
  | cons reached rest ih =>
    obtain ⟨after, compiled, extended⟩ := ih (Parser.record model reached)
    refine ⟨after, ?_, (CheckModel.Extends.record model reached).trans extended⟩
    rw [compileAll, StateT.run_bind, compile_withHeader]
    exact compiled

/-- A bound is written over, a demand is not taken back. -/
example :
    (((default : Lifecycle Unit).compileAll ∅
      [⟨.query, "name", { (∅ : RuleSet) with maxLength := some 2, required := some true }⟩,
        ⟨.query, "name", { (∅ : RuleSet) with maxLength := some 3, required := some false }⟩]).run
          ()).1.1.rules? .query "name" =
      some { (∅ : RuleSet) with maxLength := some 3, required := some true } := rfl

end Lifecycle
end WireContract

import WireContract.Proofs.Handing
import WireContract.Proofs.SingleRules

namespace WireContract

namespace RuleSet

theorem Within.only_eq {rules other : RuleSet} (within : rules.Within other) {rule : Rule}
    (isRule : rule ∈ rules.keys) : rule ∈ other.keys ∧ other.only rule = rules.only rule := by
  have present := mem_keys.mp isRule
  constructor
  · rw [mem_keys, ← within, has_extend, present, Bool.or_true]
  · rw [← within]
    cases rule <;> simp_all [only, restrict, extend, has, Option.isSome_iff_exists] <;> grind

end RuleSet

namespace CheckModel

/-- Every field of `model` is one of `other`, where each of its rules stands with the same value. -/
def Within (model other : CheckModel) : Prop :=
  ∀ location path rules, model.rules? location path = some rules →
    ∃ stricter, other.rules? location path = some stricter ∧ rules.Within stricter

theorem Hands.of_within {model other : CheckModel} (within : model.Within other) {request : Request}
    {location : Location} {value : Json} {rules : RuleSet} {key : Option String}
    (handed : model.Hands request location value rules key) :
    ∃ stricter, other.Hands request location value stricter key ∧ rules.Within stricter := by
  cases handed with
  | query declared =>
    obtain ⟨stricter, present, isWithin⟩ := within _ _ _ declared
    exact ⟨stricter, .query present, isWithin⟩
  | path declared =>
    obtain ⟨stricter, present, isWithin⟩ := within _ _ _ declared
    exact ⟨stricter, .path present, isWithin⟩
  | header declared =>
    obtain ⟨stricter, present, isWithin⟩ := within _ _ _ declared
    exact ⟨stricter, .header present, isWithin⟩
  | body declared resolved =>
    obtain ⟨stricter, present, isWithin⟩ := within _ _ _ declared
    exact ⟨stricter, .body present resolved, isWithin⟩

end CheckModel

namespace Lifecycle

variable (header : String) (now : Instant)

theorem verdict_pass_of_within {rules other : RuleSet} (within : rules.Within other) (value : Json)
    (key : Option String) (passed : verdict header now value other key = .pass) :
    verdict header now value rules key = .pass := by
  rw [verdict_eq_pass_iff_each] at passed ⊢
  intro rule isRule
  obtain ⟨stands, same⟩ := within.only_eq isRule
  rw [← same]
  exact passed rule stands

/-- The built-in rules reject whatever they do not pass, from any location. -/
theorem not_rejects_iff_pass {model : CheckModel} {request : Request} {location : Location}
    {value : Json} {rules : RuleSet} {key : Option String}
    (handed : model.Hands request location value rules key) :
    ¬ location.Rejects (verdict header now value rules key) ↔
      verdict header now value rules key = .pass := by
  cases handed with
  | header declared => exact Classical.not_not
  | query | path | body => exact verdict_ne_fail_iff_pass header now _ _

/-- A request that the built-in rules accept by a model is accepted by any model within it. -/
theorem validate_pass_of_within {model other : CheckModel} (within : model.Within other)
    {request : Request} (passed : (withHeader header).validate now other request = .pass) :
    (withHeader header).validate now model request = .pass := by
  rw [validate_withHeader, Judge.request_eq_pass_iff_hands] at passed ⊢
  intro location value rules key handed
  obtain ⟨stricter, handedToo, isWithin⟩ := handed.of_within within
  rw [not_rejects_iff_pass header now handed]
  have accepted := (not_rejects_iff_pass header now handedToo).mp (passed _ _ _ _ handedToo)
  exact verdict_pass_of_within header now isWithin value key accepted

end Lifecycle

namespace Pages

def model : CheckModel := (∅ : CheckModel).update .query "page" fun _ => .ofMaxLength 3

def required : RuleSet := { RuleSet.empty with required := some true }

def stricter : CheckModel :=
  (model.update .query "page" (·.extend required)).update .header "trace" (·.extend required)

def request : Request :=
  ((∅ : Request).withQuery "page" (.string "12")).withHeader "trace" (.string "a")

theorem model_within : model.Within stricter := by
  intro location path rules declared
  simp only [model, CheckModel.rules?_update] at declared
  split at declared
  · next isPage =>
    obtain ⟨rfl, rfl⟩ := isPage
    obtain rfl := Option.some.inj declared
    exact ⟨_, rfl, rfl⟩
  · cases location <;> cases declared

theorem stricter_pass :
    (Lifecycle.withHeader Lifecycle.defaultTokenHeader).validate ⟨0, 0⟩ stricter request = .pass := by
  have query : Checker.entriesOf stricter.query = [("page", (RuleSet.ofMaxLength 3).extend required)] :=
    rfl
  have header : Checker.entriesOf stricter.header = [("trace", required)] := rfl
  have page : request.query.get? "page" = some (.string "12") := rfl
  have trace : request.headers.get? (Request.headerName "trace") = some (.string "a") := rfl
  rw [Lifecycle.validate_withHeader, Judge.request_eq_pass_iff, query, header]
  refine ⟨?_, rfl, ?_, rfl⟩
  · simp only [Judge.rejects, Checker.valueIn, List.any_cons, List.any_nil, page, Option.getD_some]
    rw [Lifecycle.verdict_eq]
    decide
  · simp only [List.findSome?_cons, List.findSome?_nil, Judge.headerOutcome?, trace, Option.getD_some]
    rw [Lifecycle.verdict_eq]
    decide

theorem page_passes :
    (Lifecycle.withHeader Lifecycle.defaultTokenHeader).validate ⟨0, 0⟩ model request = .pass :=
  Lifecycle.validate_pass_of_within _ _ model_within stricter_pass

end Pages

end WireContract

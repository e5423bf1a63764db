import WireContract.Proofs.Compilation
import WireContract.Proofs.Verdict

namespace WireContract

namespace BodyPath

theorem resolve_of_isFalsy {value : Json} (isFalsy : value.isFalsy = true) (path : List String) :
    resolve path value = [] := by
  cases path with
  | nil => rfl
  | cons segment rest => simp [resolve, isFalsy]

theorem segments_wholeBody : segments wholeBody = [wholeBody] := by decide

theorem resolve_wholeBody (value : Json) :
    resolve (segments wholeBody) value = if value.isFalsy then [] else [value] := by
  rw [segments_wholeBody]
  simp [resolve, last]

end BodyPath

namespace CheckModel

def ofWholeBody (rules : RuleSet) : CheckModel :=
  (∅ : CheckModel).update .body BodyPath.wholeBody fun _ => rules

theorem rulesAt_ofWholeBody (rules : RuleSet) (path : String) :
    (ofWholeBody rules).rulesAt .body path = if path = BodyPath.wholeBody then rules else ∅ := by
  rw [ofWholeBody, rulesAt_update]
  simp only [true_and]
  rfl

end CheckModel

namespace Lifecycle

variable (header : String) (now : Instant)

theorem validate_eq_fail_iff {model : CheckModel} (query : model.section? .query = none)
    (path : model.section? .path = none) (headers : model.section? .header = none)
    (request : Request) :
    (withHeader header).validate now model request = .fail ↔
      ∃ path, ∃ value ∈ BodyPath.resolve (BodyPath.segments path) request.body,
        verdict header now value (model.rulesAt .body path) none = .fail := by
  have silent (value : Json) : verdict header now value ∅ none ≠ .fail := by
    rw [verdict_empty]
    decide
  rw [validate_withHeader, Judge.request_of_body _ query path headers,
    ← Judge.rejects_eq_true_iff _ silent _ model .body]
  simp only [CheckModel.section?]
  split <;> simp_all

theorem validate_ofWholeBody_eq_fail_iff (rules : RuleSet) (request : Request) :
    (withHeader header).validate now (.ofWholeBody rules) request = .fail ↔
      request.body.isFalsy = false ∧
        (withHeader header).outcome now request.body rules none = .fail := by
  rw [validate_eq_fail_iff header now rfl rfl rfl, outcome_withHeader]
  constructor
  · rintro ⟨path, value, reached, fails⟩
    rw [CheckModel.rulesAt_ofWholeBody] at fails
    split at fails
    · next whole =>
      rw [whole, BodyPath.resolve_wholeBody] at reached
      split at reached
      · cases reached
      · next notFalsy =>
        obtain rfl := List.mem_singleton.mp reached
        exact ⟨by simpa using notFalsy, fails⟩
    · rw [verdict_empty] at fails
      cases fails
  · rintro ⟨notFalsy, fails⟩
    refine ⟨BodyPath.wholeBody, request.body, ?_, ?_⟩
    · simp [BodyPath.resolve_wholeBody, notFalsy]
    · rw [CheckModel.rulesAt_ofWholeBody, if_pos rfl]
      exact fails

theorem validate_of_isFalsy {model : CheckModel} (query : model.section? .query = none)
    (path : model.section? .path = none) (headers : model.section? .header = none)
    {request : Request} (isFalsy : request.body.isFalsy = true) :
    (withHeader header).validate now model request = .pass := by
  rw [validate_withHeader, Judge.request_of_body _ query path headers]
  simp [Judge.rejects, BodyPath.resolve_of_isFalsy isFalsy]

/-- Rules for the whole body reject exactly the bodies that fail them and are not falsy. So the verdict is
that of a plain check unless a falsy body fails it, and a body parameter alone, required or not, passes
every request without a body. -/
theorem wholeBody_rules_apply_unless_falsy (now : Instant) (rules : RuleSet) (request : Request) :
    ((default : Lifecycle Unit).validate now (.ofWholeBody rules) request = .fail ↔
      request.body.isFalsy = false ∧
        (default : Lifecycle Unit).outcome now request.body rules none = .fail) ∧
    (((default : Lifecycle Unit).validate now (.ofWholeBody rules) request = .fail ↔
        (default : Lifecycle Unit).outcome now request.body rules none = .fail) ↔
      (request.body.isFalsy = true →
        (default : Lifecycle Unit).outcome now request.body rules none ≠ .fail)) ∧
    ∀ definitions item operation parameter,
      Compiler.parametersOf item operation = [parameter] →
      parameter.place? = some (.body, BodyPath.wholeBody) → request.body.isFalsy = true →
      (default : Lifecycle Unit).validate now
        (Compiler.operation ⟨definitions, (default : Lifecycle Unit).folding⟩ item operation)
        request = .pass := by
  have verdicts := validate_ofWholeBody_eq_fail_iff defaultTokenHeader now rules request
  refine ⟨verdicts, ?agreement, ?parameters⟩
  case agreement =>
    rw [default, verdicts]
    cases request.body.isFalsy <;> simp
  case parameters =>
    intro definitions item operation parameter alone place isFalsy
    exact validate_of_isFalsy _ _
      (Compiler.operation_section?_of_alone _ alone place (by decide))
      (Compiler.operation_section?_of_alone _ alone place (by decide))
      (Compiler.operation_section?_of_alone _ alone place (by decide)) isFalsy

/-- A required body may be absent, though a check of the absent body fails. -/
theorem required_body_absent :
    ¬ ((default : Lifecycle Unit).validate ⟨0, 0⟩
        (.ofWholeBody { (∅ : RuleSet) with required := some true }) ∅ = .fail ↔
      (default : Lifecycle Unit).outcome ⟨0, 0⟩ (∅ : Request).body
        { (∅ : RuleSet) with required := some true } none = .fail) := by
  intro agreement
  have fails : (default : Lifecycle Unit).outcome ⟨0, 0⟩ .null
      { (∅ : RuleSet) with required := some true } none = .fail := by
    rw [default, outcome_withHeader, verdict_eq]
    rfl
  have rejected := (validate_ofWholeBody_eq_fail_iff defaultTokenHeader _ _ ∅).mp
    (agreement.mpr fails)
  exact absurd rejected.1 (by decide)

end Lifecycle
end WireContract

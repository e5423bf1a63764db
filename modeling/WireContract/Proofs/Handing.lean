import WireContract.Proofs.TokenGate

namespace WireContract

/-- A value that a request holds for a field of a model, null if it holds none, with the location and the
rules of the field and the name that the check is told. -/
inductive CheckModel.Hands (model : CheckModel) (request : Request) :
    Location → Json → RuleSet → Option String → Prop
  | query {name : String} {rules : RuleSet} (declared : model.rules? .query name = some rules) :
      Hands model request .query ((request.query.get? name).getD .null) rules none
  | path {name : String} {rules : RuleSet} (declared : model.rules? .path name = some rules) :
      Hands model request .path ((request.params.get? name).getD .null) rules none
  | header {name : String} {rules : RuleSet} (declared : model.rules? .header name = some rules) :
      Hands model request .header ((request.header? name).getD .null) rules
        (some (Request.headerName name))
  /-- every value that a body path leads to -/
  | body {path : String} {rules : RuleSet} {value : Json}
      (declared : model.rules? .body path = some rules)
      (resolved : value ∈ BodyPath.resolve (BodyPath.segments path) request.body) :
      Hands model request .body value rules none

theorem CheckModel.Hands.key_eq_none {model : CheckModel} {request : Request} {location : Location}
    {value : Json} {rules : RuleSet} {key : Option String}
    (handed : model.Hands request location value rules key) (outside : location ≠ .header) :
    key = none := by
  cases handed with
  | header _ => exact absurd rfl outside
  | query | path | body => rfl

namespace Location

/-- Whether a value from the location is rejected with an outcome: a header unless it passes, any other
value only if it fails. -/
def Rejects (location : Location) (outcome : Outcome) : Prop :=
  if location = .header then outcome ≠ .pass else outcome = .fail

theorem not_rejects_iff (location : Location) (outcome : Outcome) :
    ¬ location.Rejects outcome ↔
      outcome = .pass ∨ location ≠ .header ∧ outcome = .unauthorized := by
  unfold Rejects
  split <;> cases outcome <;> simp_all

end Location

namespace Judge

variable (judge : Judge)

theorem headers_eq_none_iff (model : CheckModel) (request : Request) :
    (Checker.entriesOf model.header).findSome? (judge.headerOutcome? request) = none ↔
      ∀ name rules, model.rules? .header name = some rules →
        judge ((request.header? name).getD .null) rules (some (Request.headerName name)) = .pass := by
  have settled (field : String × RuleSet) : judge.headerOutcome? request field = none ↔
      judge ((request.header? field.1).getD .null) field.2 (some (Request.headerName field.1)) =
        .pass := by
    simp [headerOutcome?, Request.header?]
  simp only [List.findSome?_eq_none_iff, settled]
  constructor
  · intro all name rules declared
    exact all (name, rules) ((Checker.mem_entriesOf .header).mpr declared)
  · intro all field member
    exact all field.1 field.2 ((Checker.mem_entriesOf .header).mp member)

theorem request_eq_pass_iff_hands (model : CheckModel) (request : Request) :
    judge.request model request = .pass ↔
      ∀ location value rules key, model.Hands request location value rules key →
        ¬ location.Rejects (judge value rules key) := by
  have query := judge.valueIn_eq_false_iff request.query model .query
  have path := judge.valueIn_eq_false_iff request.params model .path
  have body := judge.rejects_eq_false_iff
    (fun path => BodyPath.resolve (BodyPath.segments path) request.body) model .body
  simp only [CheckModel.section?] at query path body
  rw [request_eq_pass_iff, query, path, body, headers_eq_none_iff]
  constructor
  · rintro ⟨ofQuery, ofPath, ofHeader, ofBody⟩ location value rules key handed
    cases handed with
    | query declared => exact ofQuery _ _ declared
    | path declared => exact ofPath _ _ declared
    | header declared => exact fun rejected => rejected (ofHeader _ _ declared)
    | body declared resolved => exact ofBody _ _ declared _ resolved
  · intro none
    refine ⟨fun _ _ declared => none _ _ _ _ (.query declared),
      fun _ _ declared => none _ _ _ _ (.path declared), fun name rules declared => ?_,
      fun _ _ declared _ resolved => none _ _ _ _ (.body declared resolved)⟩
    exact Classical.not_not.mp (none _ _ _ _ (.header declared))

end Judge
end WireContract

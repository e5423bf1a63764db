import WireContract.Proofs.Compilation
import WireContract.Proofs.Referral

namespace WireContract

namespace Parser

theorem record_record (model : CheckModel) (location : Location) (path : String)
    {earlier later : RuleSet} (ofEarlier : recorded earlier = earlier)
    (ofLater : recorded later = later) :
    record (record model ⟨location, path, earlier⟩) ⟨location, path, later⟩ =
      record model ⟨location, path, earlier.extend later⟩ := by
  have both : recorded (earlier.extend later) = earlier.extend later := by
    cases earlier
    cases later
    simp only [recorded, RuleSet.isRequired, RuleSet.extend, RuleSet.mk.injEq, and_true]
      at ofEarlier ofLater ⊢
    grind
  rw [record_eq, record_eq, record_eq, ofEarlier, ofLater, both, CheckModel.extendAt_extendAt]

end Parser

namespace SchemaNode

def referring (reference : String) : SchemaNode := { empty with reference := some reference }

/-- A reference and then its target say what the target says where the reference stands. -/
theorem keywords_referring_extend (reference : String) (target : SchemaNode) (listed : Bool) :
    ((referring reference).keywords listed).extend (target.keywords false) =
      target.keywords listed := by
  have unrequired : (referring reference).isRequired = false := rfl
  have noRules : (referring reference).rules = RuleSet.empty := rfl
  cases listed <;> cases own : target.isRequired <;>
    simp [keywords, unrequired, noRules, own, RuleSet.extend, RuleSet.empty]

end SchemaNode

namespace Walk

/-- What the fields that steps reach in a body make of a check model. -/
def effect (steps : List WalkStep) (model : CheckModel) : CheckModel :=
  (steps.filterMap WalkStep.field?).foldl
    (fun model (path, keywords) => Parser.record model ⟨.body, path, keywords⟩) model

theorem effect_append (front back : List WalkStep) (model : CheckModel) :
    effect (front ++ back) model = effect back (effect front model) := by
  simp [effect, List.filterMap_append]

theorem effect_append_congr {front back other more : List WalkStep} (fronts : effect front = effect other)
    (backs : effect back = effect more) : effect (front ++ back) = effect (other ++ more) := by
  funext model
  rw [effect_append, effect_append, fronts, backs]

theorem effect_reach (path : String) (node : SchemaNode) (listed : Bool) (model : CheckModel) :
    effect (reach path node listed) model =
      if path = "" then model else Parser.record model ⟨.body, path, node.keywords listed⟩ := by
  by_cases root : path = ""
  · simp [effect, reach, root]
  · simp [effect, reach, root, WalkStep.field?]

theorem effect_reach_congr (path : String) {node other : SchemaNode} {listed : Bool}
    (same : node.keywords listed = other.keywords listed) :
    effect (reach path node listed) = effect (reach path other listed) := by
  funext model
  rw [effect_reach, effect_reach, same]

theorem effect_reach_target (path reference : String) (target : SchemaNode) (listed : Bool) :
    effect (reach path (.referring reference) listed ++ reach path target false) =
      effect (reach path target listed) := by
  funext model
  rw [effect_append, effect_reach, effect_reach, effect_reach]
  by_cases root : path = ""
  · simp only [root, if_true]
  · simp only [root, if_false]
    rw [Parser.record_record _ _ _ (SchemaNode.recorded_keywords _ _)
      (SchemaNode.recorded_keywords _ _), SchemaNode.keywords_referring_extend]

theorem effect_follow_fresh {definitions : Definitions} {names : List String}
    {path reference name : String} {target : SchemaNode}
    {present : (name, target).1 ∈ definitions.nodes.keys}
    (resolved : definitions.target? reference = some ⟨(name, target), present⟩) (fresh : name ∉ names) :
    effect (follow definitions names path reference) =
      effect (reach path target false ++
        beyond definitions (name :: names) path target.reference target) := by
  funext model
  have opens : effect [.opened name path] model = model := rfl
  have closes (later : CheckModel) : effect [.closed name] later = later := rfl
  rw [follow_fresh definitions names resolved (by simpa using fresh), node_eq,
    ← List.singleton_append, effect_append, opens, effect_append, closes]

theorem effect_follow_open {definitions : Definitions} {names : List String}
    {path reference name : String} {target : SchemaNode}
    {present : (name, target).1 ∈ definitions.nodes.keys}
    (resolved : definitions.target? reference = some ⟨(name, target), present⟩) (isOpen : name ∈ names) :
    effect (follow definitions names path reference) = effect [] := by
  rw [follow_open definitions names resolved (by simpa using isOpen)]
  rfl

end Walk
end WireContract

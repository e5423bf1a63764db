import WireContract.Proofs.Compilation
import WireContract.Proofs.Referral

namespace WireContract

namespace Reached

/-- Recorded keywords may require a field but never take it back that it is required. -/
theorem isRequired_extend_recorded (rules keywords : RuleSet) :
    (rules.extend (Parser.recorded keywords)).isRequired =
      (rules.isRequired || keywords.isRequired) := by
  have recorded : (Parser.recorded keywords).required =
      if keywords.isRequired then some true else none := rfl
  cases required : keywords.isRequired <;> rw [required] at recorded <;>
    simp [RuleSet.isRequired, RuleSet.extend, recorded]

theorem gather_isRequired_iff (location : Location) (path : String) (rules : RuleSet)
    (fields : List Reached) :
    (gather location path rules fields).isRequired = true ↔
      rules.isRequired = true ∨
        ∃ field ∈ fields, field.isAt location path = true ∧ field.keywords.isRequired = true := by
  induction fields generalizing rules with
  | nil => simp [gather]
  | cons field rest ih =>
    have step : gather location path rules (field :: rest) =
        gather location path (gather location path rules [field]) rest :=
      gather_append location path rules [field] rest
    have first : (gather location path rules [field]).isRequired = true ↔
        rules.isRequired = true ∨
          field.isAt location path = true ∧ field.keywords.isRequired = true := by
      cases here : field.isAt location path <;> simp [gather, here, isRequired_extend_recorded]
    rw [step, ih, first]
    simp only [List.mem_cons, or_and_right, exists_or, exists_eq_left, or_assoc]

end Reached

namespace SchemaNode

theorem keywords_isRequired (node : SchemaNode) (listed : Bool) :
    (node.keywords listed).isRequired = (node.isRequired || listed) := by
  cases required : node.isRequired || listed <;> simp [keywords, RuleSet.isRequired, required]

def Requires (definitions : Definitions) (parameter : SchemaNode) (location : Location)
    (path : String) : Prop :=
  ∃ field ∈ parameter.reached definitions,
    field.isAt location path = true ∧ field.keywords.isRequired = true

end SchemaNode

namespace CheckModel

theorem foldl_record_isRequired_iff (fields : List Reached) (location : Location) (path : String) :
    ((fields.foldl Parser.record ∅).rulesAt location path).isRequired = true ↔
      ∃ field ∈ fields, field.isAt location path = true ∧ field.keywords.isRequired = true := by
  have noRules : ¬ ((∅ : CheckModel).rulesAt location path).isRequired = true := by
    cases location <;> exact Bool.false_ne_true
  rw [rulesAt_foldl_record, Reached.gather_isRequired_iff, or_iff_right noRules]

end CheckModel

namespace Compiler

variable (header : String) (definitions : Definitions) (location : Location) (path : String)

theorem parameter_isRequired_iff (parameter : SchemaNode) :
    ((Compiler.parameter ⟨definitions, (Lifecycle.withHeader header).folding⟩ ∅ parameter).rulesAt
        location path).isRequired = true ↔ parameter.Requires definitions location path := by
  rw [Compiler.parameter, Lifecycle.folding_withHeader]
  exact CheckModel.foldl_record_isRequired_iff _ location path

theorem operation_isRequired_iff (item : PathItem) (operation : Operation) :
    ((Compiler.operation ⟨definitions, (Lifecycle.withHeader header).folding⟩ item operation).rulesAt
        location path).isRequired = true ↔
      ∃ parameter ∈ parametersOf item operation, parameter.Requires definitions location path := by
  rw [operation_eq, CheckModel.foldl_record_isRequired_iff]
  simp only [List.mem_flatMap, SchemaNode.Requires]
  constructor
  · rintro ⟨field, ⟨parameter, isParameter, isField⟩, required⟩
    exact ⟨parameter, isParameter, field, isField, required⟩
  · rintro ⟨parameter, isParameter, field, isField, required⟩
    exact ⟨field, ⟨parameter, isParameter, isField⟩, required⟩

end Compiler

namespace Walk

def Asks (steps : List WalkStep) (path : String) : Prop :=
  ∃ keywords, .field path keywords ∈ steps ∧ keywords.isRequired = true

theorem mem_fields_iff {steps : List WalkStep} {path : String} {keywords : RuleSet} :
    (path, keywords) ∈ steps.filterMap WalkStep.field? ↔ .field path keywords ∈ steps := by
  constructor
  · intro isField
    obtain ⟨step, isStep, reaches⟩ := List.mem_filterMap.mp isField
    cases step with
    | field => cases reaches; exact isStep
    | opened | closed | cut => cases reaches
  · intro isStep
    exact List.mem_filterMap.mpr ⟨_, isStep, rfl⟩

theorem not_asks_nil (path : String) : ¬ Asks [] path := by
  rintro ⟨_, isStep, _⟩
  cases isStep

theorem asks_append {front back : List WalkStep} {path : String} :
    Asks (front ++ back) path ↔ Asks front path ∨ Asks back path := by
  simp only [Asks, List.mem_append, or_and_right, exists_or]

theorem asks_reach {path field : String} {node : SchemaNode} {listed : Bool} :
    Asks (reach path node listed) field ↔
      path ≠ "" ∧ field = path ∧ (node.isRequired = true ∨ listed = true) := by
  by_cases root : path = ""
  · simp [Asks, reach, root]
  · simp [Asks, reach, root, SchemaNode.keywords_isRequired, and_assoc]

variable {definitions : Definitions} {names : List String}

theorem asks_follow_fresh {path field reference name : String} {target : SchemaNode}
    {present : (name, target).1 ∈ definitions.nodes.keys}
    (resolved : definitions.target? reference = some ⟨(name, target), present⟩)
    (fresh : ¬ names.contains name = true) :
    Asks (follow definitions names path reference) field ↔
      Asks (node definitions (name :: names) path false target) field := by
  rw [follow_fresh definitions names resolved fresh]
  simp [Asks]

theorem not_asks_follow_open {path field reference name : String} {target : SchemaNode}
    {present : (name, target).1 ∈ definitions.nodes.keys}
    (resolved : definitions.target? reference = some ⟨(name, target), present⟩)
    (isOpen : names.contains name = true) :
    ¬ Asks (follow definitions names path reference) field := by
  rw [follow_open definitions names resolved isOpen]
  simp [Asks]

end Walk

namespace SchemaNode

def placed (parameter : SchemaNode) (location : Location) : SchemaNode :=
  match parameter.items with
  | some items => if location == .query && parameter.isArray then parameter.overlay items else parameter
  | none => parameter

variable {definitions : Definitions} {parameter : SchemaNode} {location : Location} {path : String}

theorem asks_bodySteps_iff {schema : Option SchemaNode} :
    Walk.Asks (steps.bodySteps definitions location schema) path ↔
      ∃ body, location = .body ∧ schema = some body ∧ Walk.Asks (Walk.body definitions body) path := by
  cases schema with
  | none => simp [steps.bodySteps, Walk.Asks]
  | some body =>
    by_cases isBody : location = .body
    · subst isBody
      simp [steps.bodySteps]
    · simp [steps.bodySteps, isBody, Walk.Asks]

theorem steps_eq (definitions : Definitions) (parameter : SchemaNode) (location : Location)
    (own : String) :
    parameter.steps definitions location own =
      Walk.reach own (parameter.placed location) false ++
        steps.bodySteps definitions location parameter.schema := by
  unfold steps placed
  cases parameter.items with
  | none => rfl
  | some items =>
    simp only
    split
    · next isList =>
      have notBody : (location == .body) = false := by
        cases location <;> first | rfl | cases isList
      cases parameter.schema <;> simp [steps.bodySteps, notBody]
    · rfl

theorem requires_iff_of_place {own : String} (place : parameter.place? = some (location, own))
    {other : Location} :
    parameter.Requires definitions other path ↔
      location = other ∧ (own ≠ "" ∧ path = own ∧ (parameter.placed location).isRequired = true ∨
        ∃ schema, location = .body ∧ parameter.schema = some schema ∧
          Walk.Asks (Walk.body definitions schema) path) := by
  have asks : parameter.Requires definitions other path ↔
      location = other ∧ Walk.Asks (parameter.steps definitions location own) path := by
    simp only [Requires, reached, place, List.mem_map, Prod.exists, Walk.mem_fields_iff]
    constructor
    · rintro ⟨_, ⟨path, keywords, isStep, rfl⟩, here, required⟩
      simp only [Reached.isAt, Bool.and_eq_true, beq_iff_eq] at here
      obtain ⟨rfl, rfl⟩ := here
      exact ⟨rfl, keywords, isStep, required⟩
    · rintro ⟨rfl, keywords, isStep, required⟩
      exact ⟨_, ⟨path, keywords, isStep, rfl⟩, by simp [Reached.isAt], required⟩
  rw [asks, steps_eq, Walk.asks_append, Walk.asks_reach, asks_bodySteps_iff]
  simp only [Bool.false_eq_true, or_false]

/-- What a parameter at a place requires there by the node that stands there, or by the schema of a body. -/
def RequiresItself (definitions : Definitions) (parameter : SchemaNode) (location : Location) : Prop :=
  (parameter.placed location).isRequired = true ∨
    ∃ schema, location = .body ∧ parameter.schema = some schema ∧
      Walk.Asks (Walk.body definitions schema) BodyPath.wholeBody

theorem path_of_body (place : parameter.place? = some (.body, path)) : path = BodyPath.wholeBody := by
  simp only [place?, Option.bind_eq_bind, Option.bind_eq_some_iff, Option.pure_def, Option.some.injEq,
    Prod.mk.injEq] at place
  obtain ⟨_, _, _, _, rfl, rfl⟩ := place
  rfl

/-- At the place of a parameter only those parameters require anything that stand there too. -/
theorem requires_iff (place : parameter.place? = some (location, path)) (named : path ≠ "")
    {other : SchemaNode} :
    other.Requires definitions location path ↔
      other.place? = some (location, path) ∧ other.RequiresItself definitions location := by
  cases otherPlace : other.place? with
  | none => simp [Requires, reached, otherPlace]
  | some found =>
    obtain ⟨elsewhere, own⟩ := found
    rw [requires_iff_of_place otherPlace, Option.some.injEq, Prod.mk.injEq, and_assoc]
    refine and_congr_right fun sameLocation => ?_
    subst sameLocation
    unfold RequiresItself
    constructor
    · rintro (⟨_, rfl, required⟩ | ⟨schema, rfl, isSchema, asks⟩)
      · exact ⟨rfl, .inl required⟩
      · have whole := path_of_body place
        exact ⟨(path_of_body otherPlace).trans whole.symm, .inr ⟨schema, rfl, isSchema, whole ▸ asks⟩⟩
    · rintro ⟨rfl, required | ⟨schema, rfl, isSchema, asks⟩⟩
      · exact .inl ⟨named, rfl, required⟩
      · exact .inr ⟨schema, rfl, isSchema, (path_of_body place).symm ▸ asks⟩

theorem requiresItself_iff
    (silent : ∀ items, parameter.items = some items → items.required = none)
    (lenient : ∀ schema, location = .body → parameter.schema = some schema →
      ¬ Walk.Asks (Walk.body definitions schema) BodyPath.wholeBody) :
    parameter.RequiresItself definitions location ↔ parameter.isRequired = true := by
  have placed : (parameter.placed location).isRequired = parameter.isRequired := by
    unfold placed
    cases isItems : parameter.items with
    | none => rfl
    | some items =>
      simp only
      split
      · simp [isRequired, overlay, silent items isItems]
      · rfl
  rw [RequiresItself, placed]
  refine or_iff_left ?_
  rintro ⟨schema, isBody, isSchema, asks⟩
  exact lenient schema isBody isSchema asks

end SchemaNode
end WireContract

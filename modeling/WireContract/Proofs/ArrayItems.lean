import WireContract.Proofs.Acceptance
import WireContract.Proofs.Entering

/-!
Rules for the items of arrays in a body. They stand in the check model for arrays that are properties, at
the path with the array mark; of no other array the items are looked at. Main statements:
`within_rulesAt`, that rules stand in a model unless another field disputes them, and
`items_of_property_arrays_pass`.
-/

namespace WireContract

namespace RuleSet

def Agrees (rules other : RuleSet) : Prop := rules.extend other = other.extend rules

theorem Within.extend_of_agrees {rules current other : RuleSet} (within : rules.Within current)
    (agrees : rules.Agrees other) : rules.Within (current.extend other) := by
  calc
    (current.extend other).extend rules = current.extend (other.extend rules) :=
      extend_assoc current other rules
    _ = current.extend (rules.extend other) := by rw [agrees]
    _ = (current.extend rules).extend other := (extend_assoc current rules other).symm
    _ = current.extend other := by rw [within]

theorem Within.extend_of_within {rules other : RuleSet} (current : RuleSet)
    (within : rules.Within other) : rules.Within (current.extend other) :=
  within.trans (within_extend other current)

theorem Within.withRequired {rules other : RuleSet} (within : rules.Within other)
    {own outer : Option Bool} (required : own.or outer = outer) :
    RuleSet.Within { rules with required := own } { other with required := outer } := by
  cases rules
  cases other
  simp_all [Within, extend]

end RuleSet

namespace SchemaNode

theorem keywords_within_overlay (array items : SchemaNode) (listed : Bool) :
    (items.keywords false).Within ((array.overlay items).keywords listed) := by
  have required : items.isRequired = true → (array.overlay items).isRequired = true := by
    simp only [isRequired, overlay, beq_iff_eq]
    intro own
    rw [own, Option.some_or]
  have rules : items.rules.Within (array.overlay items).rules :=
    RuleSet.within_extend items.rules array.rules
  refine rules.withRequired ?_
  cases own : items.isRequired with
  | false => simp
  | true => simp [required own]

end SchemaNode

namespace Compiler

variable (definitions : Definitions) (item : PathItem) (operation : Operation)

/-- No field at a path of the body has any of the rules with another value. -/
def Undisputed (path : String) (rules : RuleSet) : Prop :=
  ∀ parameter ∈ parametersOf item operation, ∀ field ∈ parameter.reached definitions,
    field.isAt .body path = true → rules.Agrees (Parser.recorded field.keywords)

variable {definitions item operation}

theorem within_gather {path : String} {rules : RuleSet} {fields : List Reached}
    (agree : ∀ field ∈ fields, field.isAt .body path = true →
      rules.Agrees (Parser.recorded field.keywords)) (current : RuleSet)
    (stands : rules.Within current ∨
      ∃ field ∈ fields, field.isAt .body path = true ∧
        rules.Within (Parser.recorded field.keywords)) :
    rules.Within (Reached.gather .body path current fields) := by
  induction fields generalizing current with
  | nil =>
    rcases stands with within | ⟨_, isField, _⟩
    · exact within
    · cases isField
  | cons field rest ih =>
    have step : Reached.gather .body path current (field :: rest) =
        Reached.gather .body path (Reached.gather .body path current [field]) rest :=
      Reached.gather_append .body path current [field] rest
    rw [step]
    apply ih (fun other member => agree other (List.mem_cons_of_mem _ member))
    cases here : field.isAt .body path with
    | false =>
      have passedOver : Reached.gather .body path current [field] = current := by
        simp [Reached.gather, here]
      rw [passedOver]
      refine stands.imp_right ?_
      rintro ⟨other, isOther, isHere, within⟩
      rcases List.mem_cons.mp isOther with rfl | later
      · rw [here] at isHere
        cases isHere
      · exact ⟨other, later, isHere, within⟩
    | true =>
      have written : Reached.gather .body path current [field] =
          current.extend (Parser.recorded field.keywords) := by
        simp [Reached.gather, here]
      rw [written]
      rcases stands with within | ⟨other, isOther, isHere, within⟩
      · exact .inl (within.extend_of_agrees (agree field (List.mem_cons_self ..) here))
      · rcases List.mem_cons.mp isOther with rfl | later
        · exact .inl (within.extend_of_within current)
        · exact .inr ⟨other, later, isHere, within⟩

/-- Keywords that the walk of a body schema reaches at a path stand in the check model there, unless they
are disputed. -/
theorem within_rulesAt (header : String) {parameter schema : SchemaNode}
    (isParameter : parameter ∈ parametersOf item operation)
    (place : parameter.place? = some (.body, BodyPath.wholeBody))
    (isSchema : parameter.schema = some schema) {path : String} {node : SchemaNode} {listed : Bool}
    (reached : .field path (node.keywords listed) ∈ Walk.body definitions schema) {rules : RuleSet}
    (within : rules.Within (node.keywords listed))
    (undisputed : Undisputed definitions item operation path rules) :
    rules.Within ((Compiler.operation ⟨definitions, (Lifecycle.withHeader header).folding⟩ item
      operation).rulesAt .body path) := by
  rw [operation_eq, CheckModel.rulesAt_foldl_record]
  have isReached : (⟨.body, path, node.keywords listed⟩ : Reached) ∈ parameter.reached definitions := by
    have steps : parameter.steps definitions .body BodyPath.wholeBody =
        Walk.reach BodyPath.wholeBody parameter false ++ Walk.body definitions schema := by
      rw [← Walk.walked_of_body place isSchema, SchemaNode.walked, place]
    simp only [SchemaNode.reached, place, steps]
    refine List.mem_map.mpr ⟨(path, node.keywords listed), ?_, rfl⟩
    refine List.mem_filterMap.mpr ⟨.field path (node.keywords listed), ?_, rfl⟩
    exact List.mem_append_right _ reached
  refine within_gather ?_ _ (.inr ⟨_, List.mem_flatMap.mpr ⟨parameter, isParameter, isReached⟩, ?_, ?_⟩)
  · intro field isField here
    obtain ⟨other, isOther, isField⟩ := List.mem_flatMap.mp isField
    exact undisputed other isOther field isField here
  · simp [Reached.isAt]
  · rw [SchemaNode.recorded_keywords]
    exact within

end Compiler

namespace Walk

variable (definitions : Definitions)

theorem node_with_items (names : List String) (path : String) (listed : Bool) (current : SchemaNode)
    (items : Option SchemaNode) :
    node definitions names path listed { current with items := items } =
      node definitions names path listed current := by
  rw [node_eq, node_eq]
  rfl

theorem body_with_items (schema : SchemaNode) (items : Option SchemaNode) :
    body definitions { schema with items := items } = body definitions schema := by
  unfold body
  simp only [node_with_items]
  rfl

/-- The rules that items of an array are held to, `names` being open: their own keywords, or those of the
definition that they refer to. -/
inductive ItemRules (names : List String) (items : SchemaNode) : RuleSet → Prop
  | inline (inline : items.reference = none) : ItemRules names items (items.keywords false)
  | definition {reference name : String} {target : SchemaNode}
      (refers : items.reference = some reference)
      (resolves : definitions.Resolves reference name target) (fresh : name ∉ names) :
      ItemRules names items (target.keywords false)

variable {definitions} {schema : SchemaNode} {body : Json} {names : List String} {path : String}
  {node : SchemaNode} {value : Json}

/-- The rules for the items of a property have been reached at the path of the property with the array
mark. -/
theorem ItemRules.reached (entered : Enters definitions schema body names path none node value)
    {key : String} {property items : SchemaNode} (isMember : (key, property) ∈ node.members)
    (isKey : BodyPath.IsKey key) (found : property.element? = some items) {part : Json}
    (isPart : part ∈ property.parts key value) {rules : RuleSet}
    (itemRules : ItemRules definitions names items rules) :
    ∃ (reached : SchemaNode) (listed : Bool),
      .field (property.slot (BodyPath.join path key)) (reached.keywords listed) ∈
        Walk.body definitions schema ∧
      rules.Within (reached.keywords listed) := by
  cases itemRules with
  | inline inline =>
    refine ⟨_, _, entered.property_reached isMember isKey, ?_⟩
    have laid : property.laid = property.overlay items := by
      simp [SchemaNode.laid, found, inline]
    rw [laid]
    exact property.keywords_within_overlay items _
  | @definition reference name target refers resolves fresh =>
    have referral : property.referral? = some reference := by
      rw [SchemaNode.referral?, found, Option.bind_some, refers, Option.some_or]
    have opened := entered.property isMember isKey isPart
    rw [referral] at opened
    have field : property.slot (BodyPath.join path key) ≠ "" := by
      rw [property.slot_join]
      exact BodyPath.join_ne_empty path (property.slot_ne_empty isKey)
    exact ⟨_, _, opened.definition_reached resolves fresh field, .refl _⟩

end Walk

namespace Lifecycle

variable (header : String) (now : Instant)

theorem pass_of_part {model : CheckModel} {request : Request}
    (passed : (withHeader header).validate now model request = .pass) {definitions : Definitions}
    {schema : SchemaNode} {names : List String} {path key : String} {node property : SchemaNode}
    {value part : Json}
    (entered : Walk.Enters definitions schema request.body names path none node value)
    (isMember : (key, property) ∈ node.members) (isKey : BodyPath.IsKey key)
    (isPart : part ∈ property.parts key value) :
    verdict header now part (model.rulesAt .body (property.slot (BodyPath.join path key))) none =
      .pass := by
  have nonempty := property.slot_ne_empty isKey
  have arrived := (entered.property isMember isKey isPart).arrives
  rw [property.slot_join] at arrived ⊢
  have route := BodyPath.route_join path nonempty (property.slot_undotted isKey)
  have segments := (BodyPath.route_of_ne (BodyPath.join_ne_empty path nonempty)).symm.trans route
  rw [route] at arrived
  let rules := model.rulesAt .body (BodyPath.join path (property.slot key))
  refine BodyPath.pass_of_arrive (fun value => verdict header now value rules none = .pass) ?_
    (property.slot_ne_wholeBody isKey) ?_ arrived
  · intro items accepted
    exact ((verdict_array_eq_pass_iff _ _ _ _).mp accepted).2.1
  · intro resolvedValue resolved
    rw [← segments] at resolved
    exact pass_of_resolved header now passed resolved

/-- In a body that is accepted, the items of arrays that are properties pass the rules that they are held
to, unless another field at their path disputes these. The items of any other array, the body itself, a
definition or the item of an array, are not looked at: the walk is the same whatever they are. -/
theorem items_of_property_arrays_pass (now : Instant) {definitions : Definitions} {item : PathItem}
    {operation : Operation} {parameter schema : SchemaNode} {request : Request}
    (isParameter : parameter ∈ Compiler.parametersOf item operation)
    (place : parameter.place? = some (.body, BodyPath.wholeBody))
    (isSchema : parameter.schema = some schema)
    (passed : (default : Lifecycle Unit).validate now
      (Compiler.operation ⟨definitions, (default : Lifecycle Unit).folding⟩ item operation) request =
        .pass) :
    (∀ names path node value,
      Walk.Enters definitions schema request.body names path none node value →
      ∀ key property items elements rules,
        (key, property) ∈ node.members → BodyPath.IsKey key → property.element? = some items →
        value.get? key = some (.array elements) → Walk.ItemRules definitions names items rules →
        Compiler.Undisputed definitions item operation (BodyPath.items (BodyPath.join path key)) rules →
        ∀ element ∈ elements, (default : Lifecycle Unit).Accepts now element rules) ∧
    ∀ (node : SchemaNode) (items : Option SchemaNode),
      Walk.body definitions { node with items := items } = Walk.body definitions node ∧
      ∀ names path listed, Walk.node definitions names path listed { node with items := items } =
        Walk.node definitions names path listed node := by
  refine ⟨?properties, ?others⟩
  case properties =>
    intro names path node value entered key property items elements rules isMember isKey found isArray
      itemRules undisputed element isElement
    have isPart : element ∈ property.parts key value := by
      rw [SchemaNode.parts, found, isArray]
      exact isElement
    have slot : property.slot (BodyPath.join path key) = BodyPath.items (BodyPath.join path key) := by
      simp [SchemaNode.slot, found]
    obtain ⟨reached, listed, isReached, within⟩ :=
      itemRules.reached entered isMember isKey found isPart
    rw [default, accepts_withHeader]
    refine pass_of_within _ now ?_ element
      (pass_of_part defaultTokenHeader now passed entered isMember isKey isPart)
    rw [← slot] at undisputed
    exact Compiler.within_rulesAt _ isParameter place isSchema isReached within undisputed
  case others =>
    intro node items
    exact ⟨Walk.body_with_items definitions node items, fun names path listed =>
      Walk.node_with_items definitions names path listed node items⟩

end Lifecycle

namespace Initials

def initials : SchemaNode :=
  { SchemaNode.empty with type := some "string", rules := .ofMaxLength 2 }

def list : SchemaNode := { SchemaNode.empty with type := some "array", items := some initials }

def definitions : Definitions := ⟨∅, Definitions.defaultRoot⟩

theorem reached_property : (Walk.bodyOf list).reached definitions =
    [⟨.body, "$body$", ∅⟩, ⟨.body, "p[]", RuleSet.ofMaxLength 2⟩] := by
  have walked : (Walk.bodyOf list).steps definitions .body "$body$" =
      [.field "$body$" ∅, .field "p[]" (.ofMaxLength 2)] := by
    have steps := Walk.walked_bodyOf definitions list
    have inline : list.referral? = list.laid.reference := rfl
    rw [inline, Walk.beyond_leaf _ _ _ rfl rfl rfl] at steps
    exact steps
  have place : (Walk.bodyOf list).place? = some (.body, "$body$") := rfl
  rw [SchemaNode.reached, place]
  simp only [walked]
  rfl

def request : Request := (∅ : Request).withBody (.object [("p", .array [.string "ab"])])

theorem accepted : (Lifecycle.default : Lifecycle Unit).validate ⟨0, 0⟩
    (Compiler.ofParameter definitions (Walk.bodyOf list)) request = .pass := by
  rw [Compiler.ofParameter_eq, reached_property, Lifecycle.default, Lifecycle.validate_withHeader,
    Judge.request_eq_pass_iff]
  refine ⟨rfl, rfl, rfl, ?_⟩
  have fields : Checker.entriesOf (List.foldl Parser.record ∅
      [⟨.body, "$body$", ∅⟩, ⟨.body, "p[]", RuleSet.ofMaxLength 2⟩]).body =
        [("p[]", RuleSet.ofMaxLength 2)] := rfl
  have resolved : BodyPath.resolve (BodyPath.segments "p[]") request.body =
      [.array [.string "ab"]] := by
    have segments : BodyPath.segments "p[]" = ["p[]"] := by decide
    rw [segments]
    rfl
  have passes : Lifecycle.verdict Lifecycle.defaultTokenHeader ⟨0, 0⟩ (.array [.string "ab"])
      (.ofMaxLength 2) none = .pass := by
    refine Lifecycle.array_passes_maxLength _ _ (by decide) ?_
    intro text member
    obtain rfl := List.mem_singleton.mp member
    rw [Lifecycle.verdict_eq]
    rfl
  rw [fields]
  simp [Judge.rejects, resolved, passes]

theorem undisputed : Compiler.Undisputed definitions .empty (.ofParameter (Walk.bodyOf list)) "p[]"
    (initials.keywords false) := by
  intro parameter isParameter field isField here
  obtain rfl := List.mem_singleton.mp (show parameter ∈ [Walk.bodyOf list] from isParameter)
  rw [reached_property] at isField
  rcases List.mem_cons.mp isField with rfl | isField
  · cases here
  · obtain rfl := List.mem_singleton.mp isField
    rfl

theorem initials_in_property_pass :
    (Lifecycle.default : Lifecycle Unit).Accepts ⟨0, 0⟩ (.string "ab") (initials.keywords false) := by
  have isParameter : Walk.bodyOf list ∈
      Compiler.parametersOf .empty (.ofParameter (Walk.bodyOf list)) := .head _
  have enforced := (Lifecycle.items_of_property_arrays_pass ⟨0, 0⟩ isParameter rfl rfl accepted).1
  exact enforced [] "" _ _ .body "p" list initials _ _ (.head _)
    ⟨by decide, by decide, by decide, by decide⟩ rfl rfl (.inline rfl) undisputed (.string "ab") (.head _)

theorem reached_body : (SchemaNode.inBody list).reached definitions =
    [⟨.body, "$body$", ∅⟩, ⟨.body, "$body$", ∅⟩] := by
  have walked : (SchemaNode.inBody list).steps definitions .body "$body$" =
      [.field "$body$" ∅, .field "$body$" ∅] := by
    have steps : (SchemaNode.inBody list).steps definitions .body "$body$" =
        .field "$body$" ∅ :: Walk.body definitions list := rfl
    rw [steps, Walk.body_eq]
    rfl
  have place : (SchemaNode.inBody list).place? = some (.body, "$body$") := rfl
  rw [SchemaNode.reached, place]
  simp only [walked]
  rfl

/-- A body that is a list is accepted with initials of three characters in it. -/
theorem long_initials_in_body_accepted :
    ¬ ((Lifecycle.default : Lifecycle Unit).validate ⟨0, 0⟩
          (Compiler.ofParameter definitions (.inBody list))
          ((∅ : Request).withBody (.array [.string "abc"])) = .pass →
      (Lifecycle.default : Lifecycle Unit).Accepts ⟨0, 0⟩ (.string "abc") (initials.keywords false)) := by
  intro enforced
  have passed := enforced (by
    rw [Compiler.ofParameter_eq, reached_body, Lifecycle.default, Lifecycle.validate_withHeader]
    rfl)
  rw [Lifecycle.default, Lifecycle.accepts_withHeader, Lifecycle.verdict_eq] at passed
  cases passed

end Initials
end WireContract

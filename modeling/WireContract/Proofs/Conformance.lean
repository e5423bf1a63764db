import Mathlib.Logic.Relation
import WireContract.Contract.Reach
import WireContract.Json.Basic
import WireContract.Proofs.BodyPaths
import WireContract.Proofs.DependencyPath

/-!
When a value conforms to a schema, said of the two alone: no paths, no check model. Values and schemas are
entered together, an array at every item. Main statements: `conforms_iff`, and `Clear.opens`, that a
definition opened in a document without cycles leads back to no open one.
-/

namespace WireContract

namespace SchemaNode

def element (property : SchemaNode) : SchemaNode := property.element?.getD property

def parts (property : SchemaNode) (key : String) (value : Json) : List Json :=
  match property.element?, value.get? key with
  | none, some member => [member]
  | some _, some (.array items) => items
  | _, _ => []

theorem sizeOf_lt_of_mem_parts {property : SchemaNode} {key : String} {value part : Json}
    (isPart : part ∈ property.parts key value) : sizeOf part < sizeOf value := by
  unfold parts at isPart
  split at isPart
  · next found =>
    obtain rfl := List.mem_singleton.mp isPart
    exact Json.sizeOf_lt_of_get? found
  · next found =>
    exact Nat.lt_trans (Json.sizeOf_lt_of_mem_array isPart) (Json.sizeOf_lt_of_get? found)
  · cases isPart

end SchemaNode

namespace Definitions

variable (definitions : Definitions)

/-- The nodes that a reference leads through, each referring to the next; one met before ends them. -/
def trail (met : List String) (reference : Option String) : List SchemaNode :=
  match reference with
  | none => []
  | some reference =>
    match definitions.target? reference with
    | none => []
    | some ⟨(name, target), _present⟩ =>
      if _isMet : met.contains name then [] else target :: trail (name :: met) target.reference
termination_by definitions.remaining met
decreasing_by exact remaining_lt _present (by simpa using _isMet)

/-- The node that a node stands for, at the end of its references. -/
def settled (node : SchemaNode) : SchemaNode :=
  (definitions.trail [] node.reference).getLast?.getD node

/-- The rules for a property: its own keywords, an array's under those of its items, and over them those
of the definitions that it refers to. -/
def rulesOf (property : SchemaNode) (listed : Bool) : RuleSet :=
  ((definitions.trail [] property.referral?).map fun node => node.keywords false).foldl RuleSet.extend
    (property.laid.keywords listed)

/-- A falsy value conforms to any schema. Any other has members that pass the rules of the properties,
where a missing one counts as null, and whose parts conform in turn. -/
def Conforms (passes : Json → RuleSet → Prop) (schema : SchemaNode) (value : Json) : Prop :=
  value.isFalsy = true ∨
    ∀ key property, (key, property) ∈ (definitions.settled schema).members →
      passes ((value.get? key).getD .null)
        (definitions.rulesOf property ((definitions.settled schema).requiredFields.contains key)) ∧
      ∀ part, (_isPart : part ∈ property.parts key value) → Conforms passes property.element part
termination_by sizeOf value
decreasing_by exact SchemaNode.sizeOf_lt_of_mem_parts _isPart

def PropertyConforms (passes : Json → RuleSet → Prop) (required : List String)
    (property : String × SchemaNode) (value : Json) : Prop :=
  passes ((value.get? property.1).getD .null)
    (definitions.rulesOf property.2 (required.contains property.1)) ∧
  ∀ part ∈ property.2.parts property.1 value, definitions.Conforms passes property.2.element part

theorem conforms_iff (passes : Json → RuleSet → Prop) (schema : SchemaNode) (value : Json) :
    definitions.Conforms passes schema value ↔
      value.isFalsy = true ∨ ∀ property ∈ (definitions.settled schema).members,
        definitions.PropertyConforms passes (definitions.settled schema).requiredFields property
          value := by
  rw [Conforms]
  constructor
  · rintro (isFalsy | all)
    · exact .inl isFalsy
    · exact .inr fun property member => all property.1 property.2 member
  · rintro (isFalsy | all)
    · exact .inl isFalsy
    · exact .inr fun key property member => all (key, property) member

theorem conforms_congr {passes : Json → RuleSet → Prop} {schema other : SchemaNode}
    (members : (definitions.settled schema).members = (definitions.settled other).members)
    (required : (definitions.settled schema).requiredFields =
      (definitions.settled other).requiredFields) (value : Json) :
    definitions.Conforms passes schema value ↔ definitions.Conforms passes other value := by
  rw [conforms_iff, conforms_iff, members, required]

/-- A body conforms to its parameter if it passes the parameter's own keywords, unless it is falsy, and
conforms to the schema. -/
def BodyConforms (passes : Json → RuleSet → Prop) (parameter : SchemaNode) (body : Json) : Prop :=
  body.isFalsy = true ∨
    passes body (parameter.keywords false) ∧
      ∀ schema, parameter.schema = some schema → definitions.Conforms passes schema body

def Refers (name other : String) : Prop :=
  ∃ node, definitions.nodes.get? name = some node ∧ other ∈ definitions.references node

def Acyclic : Prop := ∀ name, ¬ Relation.TransGen definitions.Refers name name

def followed (node : SchemaNode) : List String :=
  (node.reference.bind (nameIn? definitions.root)).toList ++ definitions.ofMembers node.members

def Clear (dependencies names : List String) : Prop :=
  ∀ dependency ∈ dependencies, ∀ name ∈ names,
    ¬ Relation.ReflTransGen definitions.Refers name dependency

variable {definitions}

theorem Clear.nil (names : List String) : definitions.Clear [] names := by
  intro dependency member
  cases member

theorem Clear.mono {dependencies names fewer : List String}
    (clear : definitions.Clear dependencies names) (fewer_subset : fewer ⊆ names) :
    definitions.Clear dependencies fewer := by
  intro dependency member name isName
  exact clear dependency member name (fewer_subset isName)

theorem Clear.not_mem {dependencies names : List String} {name : String}
    (clear : definitions.Clear dependencies names) (isName : name ∈ names) : name ∉ dependencies := by
  intro member
  exact clear name member name isName .refl

/-- A definition that is opened in a document without cycles leads back to no open one. -/
theorem Clear.opens (acyclic : definitions.Acyclic) {dependencies names : List String} {name : String}
    {target : SchemaNode} (clear : definitions.Clear dependencies names) (isName : name ∈ names)
    (known : definitions.nodes.get? name = some target) :
    definitions.Clear (name :: dependencies) (definitions.references target) := by
  intro dependency member other isOther back
  have refers : definitions.Refers name other := ⟨target, known, isOther⟩
  rcases List.mem_cons.mp member with rfl | outer
  · exact acyclic dependency (.head' refers back)
  · exact clear dependency outer name isName (.head refers back)

theorem references_eq (node : SchemaNode) :
    definitions.references node =
      (node.reference.bind (nameIn? definitions.root)).toList ++ definitions.ofItems node.items ++
        definitions.ofBranches node.allOf ++ definitions.ofProperties node.properties := by
  cases node
  rw [references]

theorem ofProperties_eq (properties : Option (List (String × SchemaNode))) :
    definitions.ofProperties properties = definitions.ofMembers (properties.getD []) := by
  cases properties with
  | none => rw [ofProperties, Option.getD_none, ofMembers]
  | some members => rw [ofProperties, Option.getD_some]

theorem followed_subset_references (node : SchemaNode) :
    definitions.followed node ⊆ definitions.references node := by
  intro name member
  rw [references_eq, ofProperties_eq]
  rcases List.mem_append.mp member with own | below
  · simp only [List.mem_append]
    exact .inl (.inl (.inl own))
  · exact List.mem_append_right _ below

theorem ofMembers_cons (key : String) (property : SchemaNode) (more : List (String × SchemaNode)) :
    definitions.ofMembers ((key, property) :: more) =
      definitions.references property ++ definitions.ofMembers more := by
  rw [ofMembers]

theorem references_items_subset {node items : SchemaNode} (isItems : node.items = some items) :
    definitions.references items ⊆ definitions.references node := by
  intro name member
  rw [references_eq node, isItems, ofItems]
  simp only [List.mem_append]
  exact .inl (.inl (.inr member))

theorem trail_none (met : List String) : definitions.trail met none = [] := by
  rw [trail]

theorem trail_of_resolves {met : List String} {reference name : String} {target : SchemaNode}
    (resolves : definitions.Resolves reference name target) (fresh : name ∉ met) :
    definitions.trail met (some reference) =
      target :: definitions.trail (name :: met) target.reference := by
  obtain ⟨present, resolved⟩ := target?_of_resolves resolves
  have notMet : ¬ met.contains name = true := by simpa using fresh
  rw [trail, resolved]
  simp only [notMet, Bool.false_eq_true, dite_false]

theorem trail_of_clear (acyclic : definitions.Acyclic) (met : List String)
    (reference : Option String) :
    ∀ other,
      definitions.Clear met (reference.bind (nameIn? definitions.root)).toList →
      definitions.Clear other (reference.bind (nameIn? definitions.root)).toList →
        definitions.trail met reference = definitions.trail other reference := by
  -- both lists grow by the same names, so that the statement is about any two that are clear
  induction met, reference using trail.induct definitions with
  | case1 met =>
    intro other _ _
    rw [trail_none, trail_none]
  | case2 met reference unresolved =>
    intro other _ _
    rw [trail, unresolved, trail, unresolved]
  | case3 met reference name target present resolved isMet =>
    intro other clear _
    have isName : name ∈ ((some reference).bind (nameIn? definitions.root)).toList := by
      simp [(resolves_of_target? resolved).1]
    exact absurd (by simpa using isMet) (clear.not_mem isName)
  | case4 met reference name target present resolved notMet ih =>
    intro other clear otherClear
    have resolves := resolves_of_target? resolved
    have isName : name ∈ ((some reference).bind (nameIn? definitions.root)).toList := by
      simp [resolves.1]
    have inner : (target.reference.bind (nameIn? definitions.root)).toList ⊆
        definitions.references target := by
      intro name member
      exact followed_subset_references target (List.mem_append_left _ member)
    rw [trail_of_resolves resolves (clear.not_mem isName),
      trail_of_resolves resolves (otherClear.not_mem isName)]
    congr 1
    exact ih (name :: other) ((clear.opens acyclic isName resolves.2).mono inner)
      ((otherClear.opens acyclic isName resolves.2).mono inner)

theorem trail_eq_cons (acyclic : definitions.Acyclic) {reference name : String} {target : SchemaNode}
    (resolves : definitions.Resolves reference name target) :
    definitions.trail [] (some reference) = target :: definitions.trail [] target.reference := by
  rw [trail_of_resolves resolves List.not_mem_nil]
  congr 1
  have isName : name ∈ ((some reference).bind (nameIn? definitions.root)).toList := by
    simp [resolves.1]
  have opened := (Clear.nil _).opens acyclic isName resolves.2
  refine trail_of_clear acyclic _ _ [] (opened.mono ?_) (Clear.nil _)
  intro name member
  exact followed_subset_references target (List.mem_append_left _ member)

theorem settled_of_inline (definitions : Definitions) {node : SchemaNode}
    (inline : node.reference = none) :
    definitions.settled node = node := by
  rw [settled, inline, trail_none, List.getLast?_nil, Option.getD_none]

theorem settled_of_refers (acyclic : definitions.Acyclic) {node target : SchemaNode}
    {reference name : String} (refers : node.reference = some reference)
    (resolves : definitions.Resolves reference name target) :
    definitions.settled node = definitions.settled target := by
  rw [settled, refers, trail_eq_cons acyclic resolves, settled, List.getLast?_cons,
    Option.getD_some]

end Definitions

namespace SchemaNode

def IsTarget (node : SchemaNode) : Prop :=
  (node.properties.isSome = true ∧ node.isArray = false) ∨
    (node.properties = none ∧ node.items = none)

/-- A node without branches, with properties that a path can lead to and references that stand alone and
point somewhere. An array has items that refer or are an object or a scalar, and nothing besides. All the
same holds of the nodes in it. -/
inductive Regular (definitions : Definitions) : SchemaNode → Prop
  | intro {node : SchemaNode} (noBranches : node.allOf = none)
      (keys : ∀ member ∈ node.members, BodyPath.IsKey member.1)
      (distinct : (node.members.map Prod.fst).Nodup)
      (referring : ∀ reference, node.reference = some reference →
        node.properties = none ∧ node.items = none ∧
          ∃ name target, definitions.Resolves reference name target ∧ target.IsTarget)
      (array : node.isArray = true →
        node.properties = none ∧ node.reference = none ∧ node.required = none ∧
          ∀ items, node.items = some items → items.reference.isSome = true ∨ items.IsTarget)
      (members : ∀ member ∈ node.members, Regular definitions member.2)
      (items : ∀ items, node.items = some items → Regular definitions items) :
      Regular definitions node

structure Enterable (definitions : Definitions) (node : SchemaNode) : Prop where
  noBranches : node.allOf = none
  resolves : ∀ reference, node.reference = some reference →
    ∃ name target, definitions.Resolves reference name target
  keys : ∀ member ∈ node.members, BodyPath.IsKey member.1
  distinct : (node.members.map Prod.fst).Nodup
  members : ∀ member ∈ node.members, Regular definitions member.2

variable {definitions : Definitions}

theorem Regular.enterable {node : SchemaNode} (regular : Regular definitions node) :
    Enterable definitions node := by
  cases regular with
  | intro noBranches keys distinct referring _ members _ =>
    refine ⟨noBranches, ?_, keys, distinct, members⟩
    intro reference refers
    obtain ⟨_, _, name, target, resolves, _⟩ := referring reference refers
    exact ⟨name, target, resolves⟩

theorem element?_eq_some {property items : SchemaNode} (found : property.element? = some items) :
    property.isArray = true ∧ property.items = some items := by
  simpa [element?] using found

theorem Regular.element {property items : SchemaNode} (regular : Regular definitions property)
    (found : property.element? = some items) : Regular definitions items := by
  cases regular with
  | intro _ _ _ _ _ _ inItems => exact inItems items (element?_eq_some found).2

theorem Regular.overlay {property items : SchemaNode} (regular : Regular definitions property)
    (found : property.element? = some items) :
    (property.overlay items).members = items.members ∧
      (property.overlay items).requiredFields = items.requiredFields ∧
      (property.overlay items).allOf = none ∧
      (property.overlay items).reference = items.reference := by
  have noBranches := (regular.element found).enterable.noBranches
  cases regular with
  | intro ownBranches _ _ _ array _ _ =>
    obtain ⟨properties, reference, required, _⟩ := array (element?_eq_some found).1
    simp [SchemaNode.overlay, SchemaNode.members, requiredFields, ownBranches, properties, reference,
      required, noBranches]

theorem Regular.enterable_overlay {property items : SchemaNode}
    (regular : Regular definitions property) (found : property.element? = some items) :
    Enterable definitions (property.overlay items) := by
  obtain ⟨members, _, allOf, reference⟩ := regular.overlay found
  have inner := (regular.element found).enterable
  refine ⟨allOf, ?_, ?_, ?_, ?_⟩
  · rw [reference]
    exact inner.resolves
  · rw [members]
    exact inner.keys
  · rw [members]
    exact inner.distinct
  · rw [members]
    exact inner.members

theorem slot_join (property : SchemaNode) (path key : String) :
    property.slot (BodyPath.join path key) = BodyPath.join path (property.slot key) := by
  unfold slot
  split
  · exact BodyPath.items_join path key
  · rfl

theorem slot_cases (property : SchemaNode) (key : String) :
    property.slot key = key ∧ property.element? = none ∨
      property.slot key = BodyPath.items key ∧ ∃ items, property.element? = some items := by
  unfold slot
  cases property.element? with
  | none => exact .inl ⟨rfl, rfl⟩
  | some items => exact .inr ⟨rfl, items, rfl⟩

variable {key : String}

theorem slot_ne_empty (property : SchemaNode) (isKey : BodyPath.IsKey key) :
    property.slot key ≠ "" := by
  rcases property.slot_cases key with ⟨same, _⟩ | ⟨same, _⟩
  · rw [same]
    exact isKey.nonempty
  · rw [same]
    simp [BodyPath.items, BodyPath.arrayMark]

theorem slot_undotted (property : SchemaNode) (isKey : BodyPath.IsKey key) :
    '.' ∉ (property.slot key).toList := by
  rcases property.slot_cases key with ⟨same, _⟩ | ⟨same, _⟩
  · rw [same]
    exact isKey.undotted
  · rw [same]
    simp [BodyPath.items, BodyPath.arrayMark, isKey.undotted]

theorem slot_ne_wholeBody (property : SchemaNode) (isKey : BodyPath.IsKey key) :
    property.slot key ≠ BodyPath.wholeBody := by
  rcases property.slot_cases key with ⟨same, _⟩ | ⟨same, _⟩
  · rw [same]
    exact isKey.notWhole
  · rw [same]
    exact BodyPath.items_ne_wholeBody key

theorem key_of_slot (property : SchemaNode) (isKey : BodyPath.IsKey key) :
    (BodyPath.arrayKey? (property.slot key)).getD (property.slot key) = key := by
  rcases property.slot_cases key with ⟨same, _⟩ | ⟨same, _⟩
  · rw [same, isKey.unmarked, Option.getD_none]
  · rw [same, BodyPath.arrayKey?_items, Option.getD_some]

theorem last_slot (property : SchemaNode) (isKey : BodyPath.IsKey key) (value : Json) :
    BodyPath.last (property.slot key) value = (value.get? key).getD .null := by
  rw [BodyPath.last, key_of_slot property isKey]
  simp [slot_ne_wholeBody property isKey]

theorem through_slot (property : SchemaNode) (isKey : BodyPath.IsKey key) (value : Json) :
    BodyPath.through (property.slot key) value = property.parts key value := by
  unfold BodyPath.through parts
  rcases property.slot_cases key with ⟨same, plain⟩ | ⟨same, items, found⟩
  · rw [same, isKey.unmarked, plain]
    cases value.get? key <;> rfl
  · rw [same, BodyPath.arrayKey?_items, found]
    simp only
    cases value.get? key with
    | none => rfl
    | some member => cases member <;> rfl

end SchemaNode
end WireContract

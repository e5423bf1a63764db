import WireContract.Schema.Walk

namespace WireContract

namespace SchemaNode

def element? (node : SchemaNode) : Option SchemaNode := if node.isArray then node.items else none

def slot (property : SchemaNode) (path : String) : String :=
  if property.element?.isSome then BodyPath.items path else path

/-- The node that is reached for a property: an array under its items, unless they are a reference. -/
def laid (property : SchemaNode) : SchemaNode :=
  match property.element? with
  | some items => if items.reference.isSome then property else property.overlay items
  | none => property

def referral? (property : SchemaNode) : Option String :=
  (property.element?.bind SchemaNode.reference).or property.reference

/-- A property is entered in one of three ways. -/
theorem entered {motive : String → Option String → SchemaNode → Prop} {property : SchemaNode}
    {path : String}
    (follows : ∀ items reference, property.element? = some items → items.reference = some reference →
      motive (BodyPath.items path) (some reference) property)
    (overlaid : ∀ items, property.element? = some items → items.reference = none →
      motive (BodyPath.items path) (property.overlay items).reference (property.overlay items))
    (plain : property.element? = none → motive path property.reference property) :
    motive (property.slot path) property.referral? property.laid := by
  unfold slot laid referral?
  cases found : property.element? with
  | none => exact plain found
  | some items =>
    cases refers : items.reference with
    | some reference => simpa [refers] using follows items reference found refers
    | none => simpa [refers, overlay] using overlaid items found refers

end SchemaNode

namespace Walk

variable (definitions : Definitions) (dependencies : List String)

def beyond (path : String) (reference : Option String) (current : SchemaNode) : List WalkStep :=
  match reference with
  | some reference => follow definitions dependencies path reference
  | none =>
    branches definitions dependencies path current.branches ++
      properties definitions dependencies path current.requiredFields current.members

theorem node_eq (path : String) (listed : Bool) (current : SchemaNode) :
    node definitions dependencies path listed current =
      reach path current listed ++
        beyond definitions dependencies path current.reference current := by
  rw [node]
  rfl

theorem body_eq (schema : SchemaNode) :
    body definitions schema =
      if schema.reference.isSome || schema.isComposite then
        beyond definitions [] "" schema.reference schema
      else reach BodyPath.wholeBody schema false := by
  unfold body
  cases refers : schema.reference with
  | some reference => rfl
  | none =>
    have root : reach "" schema false = [] := rfl
    rw [node_eq, refers, root, List.nil_append]
    rfl

theorem properties_nil (path : String) (required : List String) :
    properties definitions dependencies path required [] = [] := by
  rw [properties]

theorem properties_cons (path : String) (required : List String) (key : String)
    (property : SchemaNode) (rest : List (String × SchemaNode)) :
    properties definitions dependencies path required ((key, property) :: rest) =
      reach (property.slot (BodyPath.join path key)) property.laid (required.contains key) ++
        beyond definitions dependencies (property.slot (BodyPath.join path key)) property.referral?
          property.laid ++
        properties definitions dependencies path required rest := by
  rw [properties]
  congr 1
  cases isItems : property.items with
  | none =>
    have plain : property.element? = none := by simp [SchemaNode.element?, isItems]
    simp only [SchemaNode.slot, SchemaNode.laid, SchemaNode.referral?, plain]
    exact node_eq definitions dependencies _ _ property
  | some items =>
    by_cases isArray : property.isArray = true
    · have element : property.element? = some items := by
        simp [SchemaNode.element?, isArray, isItems]
      simp only [isArray, if_true, SchemaNode.slot, SchemaNode.laid, SchemaNode.referral?, element]
      cases refers : items.reference with
      | some reference => simp [beyond, refers]
      | none =>
        have overlaid : (property.overlay items).reference = property.reference := by
          simp [SchemaNode.overlay, refers]
        simpa [refers, overlaid] using
          node_eq definitions dependencies (BodyPath.items (BodyPath.join path key))
            (required.contains key) (property.overlay items)
    · have plain : property.element? = none := by simp [SchemaNode.element?, isArray]
      simp only [isArray, SchemaNode.slot, SchemaNode.laid, SchemaNode.referral?, plain]
      exact node_eq definitions dependencies _ _ property

theorem follow_unresolved {path reference : String} (unresolved : definitions.target? reference = none) :
    follow definitions dependencies path reference = [] := by
  rw [follow, unresolved]

theorem follow_open {path reference name : String} {target : SchemaNode}
    {present : (name, target).1 ∈ definitions.nodes.keys}
    (resolved : definitions.target? reference = some ⟨(name, target), present⟩)
    (isOpen : dependencies.contains name = true) :
    follow definitions dependencies path reference = [.cut name path] := by
  rw [follow, resolved]
  simp only [isOpen, dite_true]

theorem follow_fresh {path reference name : String} {target : SchemaNode}
    {present : (name, target).1 ∈ definitions.nodes.keys}
    (resolved : definitions.target? reference = some ⟨(name, target), present⟩)
    (fresh : ¬ dependencies.contains name = true) :
    follow definitions dependencies path reference =
      .opened name path ::
        (node definitions (name :: dependencies) path false target ++ [.closed name]) := by
  rw [follow, resolved]
  simp only [fresh, Bool.false_eq_true, dite_false]

theorem branches_nil (path : String) : branches definitions dependencies path [] = [] := by
  rw [branches]

theorem branches_referral {path reference : String} {branch : SchemaNode}
    (refers : branch.reference = some reference) (rest : List SchemaNode) :
    branches definitions dependencies path (branch :: rest) =
      follow definitions dependencies path reference ++ branches definitions dependencies path rest := by
  rw [branches, refers]

theorem branches_inline {path : String} {branch : SchemaNode} (inline : branch.reference = none)
    (rest : List SchemaNode) :
    branches definitions dependencies path (branch :: rest) =
      node definitions dependencies path false branch ++
        branches definitions dependencies path rest := by
  rw [branches, inline]

end Walk
end WireContract

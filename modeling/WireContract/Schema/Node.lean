import WireContract.Location
import WireContract.RuleSet

namespace WireContract

/-- A flag on a parameter, or the required properties of an object. -/
inductive Required
  | flag (on : Bool)
  | fields (names : List String)
  deriving DecidableEq

/-- A parameter, schema or response. Properties stand in key order. Of `rules` all but `required` count;
that one is said by the node's own `required` and by the object that holds the node. -/
structure SchemaNode where
  name : Option String
  location : Option String
  type : Option String
  format : Option String
  description : Option String
  reference : Option String
  schema : Option SchemaNode
  items : Option SchemaNode
  properties : Option (List (String × SchemaNode))
  allOf : Option (List SchemaNode)
  required : Option Required
  rules : RuleSet

namespace SchemaNode

def empty : SchemaNode :=
  ⟨none, none, none, none, none, none, none, none, none, none, none, ∅⟩

instance : EmptyCollection SchemaNode := ⟨empty⟩

instance : Inhabited SchemaNode := ⟨empty⟩

def isRequired (node : SchemaNode) : Bool := node.required == some (.flag true)

def requiredFields (node : SchemaNode) : List String :=
  match node.required with
  | some (.fields names) => names
  | _ => []

/-- The constraint keywords of a node; `listed` says that its parent requires it. -/
def keywords (node : SchemaNode) (listed : Bool) : RuleSet :=
  { node.rules with required := if node.isRequired || listed then some true else none }

/-- The node with every field that `top` has taken from `top`. -/
def overlay (base top : SchemaNode) : SchemaNode where
  name := top.name.or base.name
  location := top.location.or base.location
  type := top.type.or base.type
  format := top.format.or base.format
  description := top.description.or base.description
  reference := top.reference.or base.reference
  schema := top.schema.or base.schema
  items := top.items.or base.items
  properties := top.properties.or base.properties
  allOf := top.allOf.or base.allOf
  required := top.required.or base.required
  rules := base.rules.extend top.rules

def isArray (node : SchemaNode) : Bool := node.type == some "array"

def isComposite (node : SchemaNode) : Bool := node.properties.isSome || node.allOf.isSome

def branches (node : SchemaNode) : List SchemaNode := node.allOf.getD []

def members (node : SchemaNode) : List (String × SchemaNode) := node.properties.getD []

/-- How much there is below the node for a walk that enters branches and properties. -/
noncomputable def descent (node : SchemaNode) : Nat := sizeOf node.allOf + sizeOf node.properties

theorem descent_lt_sizeOf (node : SchemaNode) : node.descent < sizeOf node := by
  cases node
  simp only [descent, mk.sizeOf_spec]
  omega

theorem sizeOf_items_lt {node items : SchemaNode} (isItems : node.items = some items) :
    sizeOf items < sizeOf node := by
  cases node
  simp only at isItems
  subst isItems
  simp
  omega

theorem sizeOf_pos {α : Type} [SizeOf α] (entries : Option α) : 0 < sizeOf entries := by
  cases entries <;> simp only [Option.none.sizeOf_spec, Option.some.sizeOf_spec] <;> omega

theorem sizeOf_getD_le {α : Type} [SizeOf α] (entries : Option (List α)) :
    sizeOf (entries.getD []) ≤ sizeOf entries := by
  cases entries with
  | none => exact Nat.le_refl 1
  | some entries => exact Nat.le_add_left _ 1

theorem sizeOf_branches_lt (node : SchemaNode) : sizeOf node.branches < node.descent := by
  have upTo := sizeOf_getD_le node.allOf
  have beside := sizeOf_pos node.properties
  rw [branches, descent]
  omega

theorem sizeOf_members_lt (node : SchemaNode) : sizeOf node.members < node.descent := by
  have upTo := sizeOf_getD_le node.properties
  have beside := sizeOf_pos node.allOf
  rw [members, descent]
  omega

theorem descent_overlay_lt {array items : SchemaNode} (isItems : array.items = some items) :
    (array.overlay items).descent < sizeOf array := by
  have below := items.descent_lt_sizeOf
  cases array with
  | mk _ _ _ _ _ _ _ items' properties allOf _ _ =>
    simp only at isItems
    subst isItems
    cases items with
    | mk _ _ _ _ _ _ _ _ topProperties topAllOf _ _ =>
      cases topProperties <;> cases topAllOf <;>
        simp [overlay, descent] at below ⊢ <;> omega

end SchemaNode
end WireContract

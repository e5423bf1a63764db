import WireContract.Request.BodyPath
import WireContract.Schema.Document

/-!
Walks over schemas. A walk is the list of its steps: the fields that it reaches, and the definitions that
it opens and closes on the way. The definitions open at a step are its dependency path; a reference to
one of them is cut. Main statement: `remaining_lt`, by which every walk ends.
-/

namespace WireContract

inductive WalkStep
  /-- a field is reached at `path` -/
  | field (path : String) (keywords : RuleSet)
  /-- a reference at `path` is expanded -/
  | opened (name : String) (path : String)
  /-- the definition opened last is done -/
  | closed (name : String)
  /-- a reference at `path` is not expanded, since its definition is open -/
  | cut (name : String) (path : String)

namespace WalkStep

def openAfter (path : List String) : WalkStep → List String
  | .opened name _ => name :: path
  | .closed _ => path.tail
  | _ => path

def field? : WalkStep → Option (String × RuleSet)
  | .field path keywords => some (path, keywords)
  | _ => none

end WalkStep

namespace Definitions

def remaining (definitions : Definitions) (dependencies : List String) : Nat :=
  (definitions.nodes.keys.filter fun name => !dependencies.contains name).length

theorem length_filter_lt {α : Type} {p q : α → Bool} {items : List α} {item : α}
    (member : item ∈ items) (before : p item = true) (after : q item = false)
    (stronger : ∀ other ∈ items, q other = true → p other = true) :
    (items.filter q).length < (items.filter p).length := by
  induction items with
  | nil => cases member
  | cons first rest ih =>
    have tail : (rest.filter q).length ≤ (rest.filter p).length := by
      rw [← List.countP_eq_length_filter, ← List.countP_eq_length_filter]
      exact List.countP_mono_left fun other member => stronger other (.tail _ member)
    rcases List.mem_cons.mp member with same | later
    · subst same
      rw [List.filter_cons_of_pos before, List.filter_cons_of_neg (by simp [after])]
      exact Nat.lt_succ_of_le tail
    · have less := ih later fun other member => stronger other (.tail _ member)
      by_cases keeps : q first = true
      · rw [List.filter_cons_of_pos keeps, List.filter_cons_of_pos (stronger _ (.head _) keeps)]
        exact Nat.succ_lt_succ less
      · rw [List.filter_cons_of_neg (by simpa using keeps)]
        by_cases kept : p first = true
        · rw [List.filter_cons_of_pos kept]
          exact Nat.lt_succ_of_lt less
        · rw [List.filter_cons_of_neg (by simpa using kept)]
          exact less

theorem remaining_lt {definitions : Definitions} {dependencies : List String} {name : String}
    (present : name ∈ definitions.nodes.keys) (fresh : dependencies.contains name = false) :
    definitions.remaining (name :: dependencies) < definitions.remaining dependencies := by
  refine length_filter_lt present (by simpa using fresh) (by simp) ?_
  intro other _ outside
  simp at outside ⊢
  exact outside.2

def target? (definitions : Definitions) (reference : String) :
    Option { found : String × SchemaNode // found.1 ∈ definitions.nodes.keys } :=
  match nameIn? definitions.root reference with
  | none => none
  | some name =>
    match known : definitions.nodes.get? name with
    | none => none
    | some node =>
      some ⟨(name, node), List.mem_map.mpr ⟨(name, node), Dict.get?_eq_some_iff.mp known, rfl⟩⟩

end Definitions

namespace Walk

def reach (path : String) (node : SchemaNode) (listed : Bool) : List WalkStep :=
  if path == "" then [] else [.field path (node.keywords listed)]

mutual

def node (definitions : Definitions) (dependencies : List String) (path : String) (listed : Bool)
    (current : SchemaNode) : List WalkStep :=
  reach path current listed ++
    match current.reference with
    | some reference => follow definitions dependencies path reference
    | none =>
      branches definitions dependencies path current.branches ++
        properties definitions dependencies path current.requiredFields current.members
termination_by (definitions.remaining dependencies, current.descent)
decreasing_by
  · have := current.sizeOf_branches_lt
    exact Prod.Lex.right _ (by omega)
  · exact Prod.Lex.right _ current.sizeOf_branches_lt
  · exact Prod.Lex.right _ current.sizeOf_members_lt

def branches (definitions : Definitions) (dependencies : List String) (path : String) :
    List SchemaNode → List WalkStep
  | [] => []
  | branch :: rest =>
    (match branch.reference with
      | some reference => follow definitions dependencies path reference
      | none => node definitions dependencies path false branch) ++
      branches definitions dependencies path rest
termination_by branches => (definitions.remaining dependencies, sizeOf branches)
decreasing_by
  · exact Prod.Lex.right _ (by rw [List.cons.sizeOf_spec]; omega)
  · have := branch.descent_lt_sizeOf
    exact Prod.Lex.right _ (by rw [List.cons.sizeOf_spec]; omega)
  · exact Prod.Lex.right _ (by rw [List.cons.sizeOf_spec]; omega)

/-- Enters the properties of an object at `path`. The items of an array are reached at its path with the
array mark, with the keywords of the array where the items have none. -/
def properties (definitions : Definitions) (dependencies : List String) (path : String)
    (required : List String) : List (String × SchemaNode) → List WalkStep
  | [] => []
  | (key, property) :: rest =>
    let listed := required.contains key
    let child := BodyPath.join path key
    (match _isItems : property.items with
      | some items =>
        if property.isArray then
          match items.reference with
          | some reference =>
            reach (BodyPath.items child) property listed ++
              follow definitions dependencies (BodyPath.items child) reference
          | none => node definitions dependencies (BodyPath.items child) listed (property.overlay items)
        else node definitions dependencies child listed property
      | none => node definitions dependencies child listed property) ++
      properties definitions dependencies path required rest
termination_by properties => (definitions.remaining dependencies, sizeOf properties)
decreasing_by
  · exact Prod.Lex.right _ (by rw [List.cons.sizeOf_spec]; omega)
  · have := SchemaNode.descent_overlay_lt _isItems
    exact Prod.Lex.right _ (by rw [List.cons.sizeOf_spec, Prod.mk.sizeOf_spec]; omega)
  · have := property.descent_lt_sizeOf
    exact Prod.Lex.right _ (by rw [List.cons.sizeOf_spec, Prod.mk.sizeOf_spec]; omega)
  · have := property.descent_lt_sizeOf
    exact Prod.Lex.right _ (by rw [List.cons.sizeOf_spec, Prod.mk.sizeOf_spec]; omega)
  · exact Prod.Lex.right _ (by rw [List.cons.sizeOf_spec]; omega)

/-- Expands a reference at `path`, unless it points nowhere or to an open definition. -/
def follow (definitions : Definitions) (dependencies : List String) (path reference : String) :
    List WalkStep :=
  match definitions.target? reference with
  | none => []
  | some ⟨(name, target), present⟩ =>
    if isOpen : dependencies.contains name then [.cut name path]
    else
      .opened name path :: (node definitions (name :: dependencies) path false target ++ [.closed name])
termination_by (definitions.remaining dependencies, 0)
decreasing_by
  exact Prod.Lex.left _ _ (Definitions.remaining_lt present (by simpa using isOpen))

end

/-- Walks the schema of a body. One without properties or branches constrains the whole body. -/
def body (definitions : Definitions) (schema : SchemaNode) : List WalkStep :=
  match schema.reference with
  | some reference => follow definitions [] "" reference
  | none =>
    if schema.isComposite then node definitions [] "" false schema
    else reach BodyPath.wholeBody schema false

end Walk
end WireContract

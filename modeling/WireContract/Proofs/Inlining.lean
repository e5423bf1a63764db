import WireContract.Proofs.Conformance
import WireContract.Proofs.Recording

/-!
Nodes in which references have been replaced by what they point at, and what is open in walks of the two.
It differs in the replaced definition alone, and nothing that is entered while this is open leads back to
it. Main statements: `Inlined.overlay`, that arrays laid under their items stay related, `OpenAlike.opens`
and `OpenAlike.expands`.
-/

namespace WireContract

namespace SchemaNode

def frame (node : SchemaNode) : SchemaNode :=
  { node with items := none, properties := none, allOf := none }

mutual

/-- The other node is the node with `target` in place of some of the properties in it, at any depth, that
are the reference and nothing else. A target that is an array with items is not put there. -/
inductive Inlined (reference : String) (target : SchemaNode) : SchemaNode → SchemaNode → Prop
  | refl (node : SchemaNode) : Inlined reference target node node
  | within {node other : SchemaNode} (frame : node.frame = other.frame)
      (items : InlinedAll reference target node.items.toList other.items.toList)
      (branches : InlinedAll reference target node.branches other.branches)
      (allOf : node.allOf.isSome = other.allOf.isSome)
      (members : InlinedMembers reference target node.members other.members)
      (properties : node.properties.isSome = other.properties.isSome) :
      Inlined reference target node other

inductive InlinedAll (reference : String) (target : SchemaNode) :
    List SchemaNode → List SchemaNode → Prop
  | nil : InlinedAll reference target [] []
  | cons {node other : SchemaNode} {rest more : List SchemaNode}
      (inlined : Inlined reference target node other)
      (others : InlinedAll reference target rest more) :
      InlinedAll reference target (node :: rest) (other :: more)

inductive InlinedMembers (reference : String) (target : SchemaNode) :
    List (String × SchemaNode) → List (String × SchemaNode) → Prop
  | nil : InlinedMembers reference target [] []
  | keep {key : String} {property other : SchemaNode} {rest more : List (String × SchemaNode)}
      (inlined : Inlined reference target property other)
      (others : InlinedMembers reference target rest more) :
      InlinedMembers reference target ((key, property) :: rest) ((key, other) :: more)
  | place {key : String} {rest more : List (String × SchemaNode)} (noArray : target.element? = none)
      (others : InlinedMembers reference target rest more) :
      InlinedMembers reference target ((key, referring reference) :: rest) ((key, target) :: more)

end

variable {reference : String} {target : SchemaNode}

theorem InlinedAll.refl (nodes : List SchemaNode) : InlinedAll reference target nodes nodes := by
  induction nodes with
  | nil => exact .nil
  | cons node rest ih => exact .cons (.refl node) ih

theorem InlinedMembers.refl (members : List (String × SchemaNode)) :
    InlinedMembers reference target members members := by
  induction members with
  | nil => exact .nil
  | cons member rest ih => exact .keep (.refl member.2) ih

theorem InlinedAll.rel {node other : Option SchemaNode}
    (inlined : InlinedAll reference target node.toList other.toList) :
    Option.Rel (Inlined reference target) node other := by
  cases node with
  | none =>
    cases other with
    | none => exact .none
    | some other => cases inlined
  | some node =>
    cases other with
    | none => cases inlined
    | some other =>
      cases inlined with
      | cons inlined _ => exact .some inlined

theorem InlinedAll.isSome_eq {node other : Option SchemaNode}
    (inlined : InlinedAll reference target node.toList other.toList) : node.isSome = other.isSome := by
  cases inlined.rel <;> rfl

namespace Inlined

variable {node other : SchemaNode} (inlined : Inlined reference target node other)

include inlined

theorem frame_eq : node.frame = other.frame := by
  cases inlined with
  | refl => rfl
  | within frame => exact frame

theorem items : InlinedAll reference target node.items.toList other.items.toList := by
  cases inlined with
  | refl => exact .refl _
  | within _ items => exact items

theorem branches : InlinedAll reference target node.branches other.branches := by
  cases inlined with
  | refl => exact .refl _
  | within _ _ branches => exact branches

theorem members : InlinedMembers reference target node.members other.members := by
  cases inlined with
  | refl => exact .refl _
  | within _ _ _ _ members => exact members

theorem isSome_items : node.items.isSome = other.items.isSome := inlined.items.isSome_eq

theorem isSome_allOf : node.allOf.isSome = other.allOf.isSome := by
  cases inlined with
  | refl => rfl
  | within _ _ _ allOf => exact allOf

theorem isSome_properties : node.properties.isSome = other.properties.isSome := by
  cases inlined with
  | refl => rfl
  | within _ _ _ _ _ properties => exact properties

theorem reference_eq : node.reference = other.reference := by
  have same : node.frame.reference = other.frame.reference := by rw [inlined.frame_eq]
  exact same

theorem requiredFields_eq : node.requiredFields = other.requiredFields := by
  have same : node.frame.requiredFields = other.frame.requiredFields := by rw [inlined.frame_eq]
  exact same

theorem keywords_eq (listed : Bool) : node.keywords listed = other.keywords listed := by
  have same : node.frame.keywords listed = other.frame.keywords listed := by rw [inlined.frame_eq]
  exact same

theorem isArray_eq : node.isArray = other.isArray := by
  have same : node.frame.isArray = other.frame.isArray := by rw [inlined.frame_eq]
  exact same

theorem isComposite_eq : node.isComposite = other.isComposite := by
  rw [isComposite, isComposite, inlined.isSome_properties, inlined.isSome_allOf]

theorem element : Option.Rel (Inlined reference target) node.element? other.element? := by
  unfold element?
  rw [← inlined.isArray_eq]
  split
  · exact inlined.items.rel
  · exact .none

theorem element_none (found : node.element? = none) : other.element? = none := by
  have rel := inlined.element
  rw [found] at rel
  generalize other.element? = otherItems at rel ⊢
  cases rel
  rfl

theorem element_some {items : SchemaNode} (found : node.element? = some items) :
    ∃ otherItems, other.element? = some otherItems ∧ Inlined reference target items otherItems := by
  have rel := inlined.element
  rw [found] at rel
  generalize other.element? = otherItems at rel ⊢
  cases rel with
  | some inlinedItems => exact ⟨_, rfl, inlinedItems⟩

end Inlined

theorem items_overlay (array items : SchemaNode) :
    (array.overlay items).items = if items.items.isSome then items.items else array.items := by
  simp only [SchemaNode.overlay]
  cases items.items <;> rfl

theorem branches_overlay (array items : SchemaNode) :
    (array.overlay items).branches = if items.allOf.isSome then items.branches else array.branches := by
  simp only [branches, SchemaNode.overlay]
  cases items.allOf <;> rfl

theorem members_overlay (array items : SchemaNode) :
    (array.overlay items).members =
      if items.properties.isSome then items.members else array.members := by
  simp only [members, SchemaNode.overlay]
  cases items.properties <;> rfl

theorem Inlined.overlay {array otherArray items otherItems : SchemaNode}
    (inlined : Inlined reference target array otherArray)
    (inlinedItems : Inlined reference target items otherItems) :
    Inlined reference target (array.overlay items) (otherArray.overlay otherItems) := by
  refine .within ?frame ?items ?branches ?allOf ?members ?properties
  case frame =>
    have frame : (array.overlay items).frame = (array.frame.overlay items.frame).frame := rfl
    have otherFrame : (otherArray.overlay otherItems).frame =
        (otherArray.frame.overlay otherItems.frame).frame := rfl
    rw [frame, otherFrame, inlined.frame_eq, inlinedItems.frame_eq]
  case items =>
    rw [items_overlay, items_overlay, ← inlinedItems.isSome_items]
    split
    · exact inlinedItems.items
    · exact inlined.items
  case branches =>
    rw [branches_overlay, branches_overlay, ← inlinedItems.isSome_allOf]
    split
    · exact inlinedItems.branches
    · exact inlined.branches
  case allOf =>
    simp only [SchemaNode.overlay, Option.isSome_or, inlined.isSome_allOf, inlinedItems.isSome_allOf]
  case members =>
    rw [members_overlay, members_overlay, ← inlinedItems.isSome_properties]
    split
    · exact inlinedItems.members
    · exact inlined.members
  case properties =>
    simp only [SchemaNode.overlay, Option.isSome_or, inlined.isSome_properties,
      inlinedItems.isSome_properties]

end SchemaNode

namespace Definitions

variable {definitions : Definitions}

theorem ofBranches_eq (allOf : Option (List SchemaNode)) :
    definitions.ofBranches allOf = definitions.ofNodes (allOf.getD []) := by
  cases allOf with
  | none => rw [ofBranches, Option.getD_none, ofNodes]
  | some branches => rw [ofBranches, Option.getD_some]

theorem ofNodes_cons (node : SchemaNode) (rest : List SchemaNode) :
    definitions.ofNodes (node :: rest) = definitions.references node ++ definitions.ofNodes rest := by
  rw [ofNodes]

theorem name_subset_references {node : SchemaNode} {text : String}
    (refers : node.reference = some text) :
    (nameIn? definitions.root text).toList ⊆ definitions.references node := by
  have own : (nameIn? definitions.root text).toList ⊆ definitions.followed node := by
    rw [followed, refers, Option.bind_some]
    exact List.subset_append_left _ _
  exact List.Subset.trans own (followed_subset_references node)

theorem ofMembers_subset_references (node : SchemaNode) :
    definitions.ofMembers node.members ⊆ definitions.references node :=
  List.Subset.trans (List.subset_append_right _ _) (followed_subset_references node)

theorem ofNodes_subset_references (node : SchemaNode) :
    definitions.ofNodes node.branches ⊆ definitions.references node := by
  intro name member
  rw [references_eq, ofBranches_eq]
  exact List.mem_append_left _ (List.mem_append_right _ member)

theorem mem_references_iff (node : SchemaNode) (name : String) :
    name ∈ definitions.references node ↔
      name ∈ (node.reference.bind (nameIn? definitions.root)).toList ∨
      name ∈ definitions.ofItems node.items ∨ name ∈ definitions.ofBranches node.allOf ∨
      name ∈ definitions.ofProperties node.properties := by
  rw [references_eq]
  simp only [List.mem_append, or_assoc]

theorem references_overlay_subset {array items : SchemaNode} (isItems : array.items = some items) :
    definitions.references (array.overlay items) ⊆ definitions.references array := by
  have ofItems : definitions.references items ⊆ definitions.references array :=
    references_items_subset isItems
  -- every part of the overlay is a part of one of the two
  have either {α : Type} (top base : Option α) : top.or base = top ∨ top.or base = base := by
    cases top <;> simp
  intro name member
  rw [mem_references_iff] at member
  simp only [SchemaNode.overlay] at member
  rcases member with member | member | member | member
  · rcases either items.reference array.reference with same | same
    · exact ofItems ((mem_references_iff items name).mpr (.inl (same ▸ member)))
    · exact (mem_references_iff array name).mpr (.inl (same ▸ member))
  · rcases either items.items array.items with same | same
    · exact ofItems ((mem_references_iff items name).mpr (.inr (.inl (same ▸ member))))
    · exact (mem_references_iff array name).mpr (.inr (.inl (same ▸ member)))
  · rcases either items.allOf array.allOf with same | same
    · exact ofItems ((mem_references_iff items name).mpr (.inr (.inr (.inl (same ▸ member)))))
    · exact (mem_references_iff array name).mpr (.inr (.inr (.inl (same ▸ member))))
  · rcases either items.properties array.properties with same | same
    · exact ofItems ((mem_references_iff items name).mpr (.inr (.inr (.inr (same ▸ member)))))
    · exact (mem_references_iff array name).mpr (.inr (.inr (.inr (same ▸ member))))

/-- The definitions that are open in two walks differ in `name` alone, and once it is open in one of them
nothing of what is entered leads to it. -/
structure OpenAlike (definitions : Definitions) (name : String) (entering names others : List String) :
    Prop where
  same : ∀ other, other ≠ name → (other ∈ names ↔ other ∈ others)
  clear : name ∈ names ∨ name ∈ others →
    ∀ other ∈ entering, ¬ Relation.ReflTransGen definitions.Refers other name

namespace OpenAlike

variable {name : String} {entering names others : List String}

theorem refl (entering : List String) : OpenAlike definitions name entering [] [] := by
  refine ⟨fun _ _ => Iff.rfl, ?_⟩
  rintro (isOpen | isOpen)
  · cases isOpen
  · cases isOpen

theorem mono {fewer : List String} (alike : OpenAlike definitions name entering names others)
    (fewer_subset : fewer ⊆ entering) : OpenAlike definitions name fewer names others :=
  ⟨alike.same, fun isOpen other member => alike.clear isOpen other (fewer_subset member)⟩

theorem mem_iff (alike : OpenAlike definitions name entering names others) {other : String}
    (member : other ∈ entering) : other ∈ names ↔ other ∈ others := by
  by_cases same : other = name
  · subst same
    have closed (isOpen : other ∈ names ∨ other ∈ others) : False :=
      alike.clear isOpen other member .refl
    exact ⟨fun isOpen => (closed (.inl isOpen)).elim, fun isOpen => (closed (.inr isOpen)).elim⟩
  · exact alike.same other same

theorem opens (acyclic : ¬ Relation.TransGen definitions.Refers name name)
    (alike : OpenAlike definitions name entering names others) {other : String} {node : SchemaNode}
    (member : other ∈ entering) (known : definitions.nodes.get? other = some node) :
    OpenAlike definitions name (definitions.references node) (other :: names) (other :: others) := by
  refine ⟨fun one differs => ?_, fun isOpen inner isInner reaches => ?_⟩
  · rw [List.mem_cons, List.mem_cons, alike.same one differs]
  · have refers : definitions.Refers other inner := ⟨node, known, isInner⟩
    by_cases same : other = name
    · subst same
      exact acyclic (.head' refers reaches)
    · simp only [List.mem_cons, Ne.symm same, false_or] at isOpen
      exact alike.clear isOpen other member (.head refers reaches)

/-- The definition itself is opened where the other walk has its node in place. -/
theorem expands (acyclic : ¬ Relation.TransGen definitions.Refers name name)
    (alike : OpenAlike definitions name entering names others) {target : SchemaNode}
    (known : definitions.nodes.get? name = some target) :
    OpenAlike definitions name (definitions.references target) (name :: names) others := by
  refine ⟨fun one differs => ?_, fun _ inner isInner reaches => ?_⟩
  · rw [List.mem_cons, alike.same one differs]
    simp [differs]
  · have refers : definitions.Refers name inner := ⟨target, known, isInner⟩
    exact acyclic (.head' refers reaches)

end OpenAlike

structure Inlined (reference : String) (target : SchemaNode) (definitions others : Definitions) :
    Prop where
  root : others.root = definitions.root
  nodes : ∀ name, Option.Rel (SchemaNode.Inlined reference target) (definitions.nodes.get? name)
    (others.nodes.get? name)

theorem Inlined.refl {reference : String} {target : SchemaNode} (definitions : Definitions) :
    definitions.Inlined reference target definitions := by
  refine ⟨rfl, fun name => ?_⟩
  cases definitions.nodes.get? name with
  | none => exact .none
  | some node => exact .some (.refl node)

theorem Inlined.resolves {reference : String} {target : SchemaNode} {others : Definitions}
    (inlined : Inlined reference target definitions others) {text name : String} {node : SchemaNode}
    (resolves : definitions.Resolves text name node) :
    ∃ other, others.Resolves text name other ∧ SchemaNode.Inlined reference target node other := by
  have rel := inlined.nodes name
  rw [resolves.2] at rel
  cases found : others.nodes.get? name with
  | none =>
    rw [found] at rel
    cases rel
  | some other =>
    rw [found] at rel
    cases rel with
    | some same => exact ⟨other, ⟨inlined.root ▸ resolves.1, found⟩, same⟩

theorem Inlined.target?_eq_none {reference : String} {target : SchemaNode} {others : Definitions}
    (inlined : Inlined reference target definitions others) {text : String}
    (unresolved : definitions.target? text = none) : others.target? text = none := by
  cases found : others.target? text with
  | none => rfl
  | some found' =>
    obtain ⟨⟨name, other⟩, present⟩ := found'
    have resolves := resolves_of_target? found
    have rel := inlined.nodes name
    rw [resolves.2] at rel
    cases known : definitions.nodes.get? name with
    | none =>
      rw [known] at rel
      cases rel
    | some node =>
      obtain ⟨_, resolved⟩ := target?_of_resolves
        (show definitions.Resolves text name node from ⟨inlined.root ▸ resolves.1, known⟩)
      rw [unresolved] at resolved
      cases resolved

end Definitions
end WireContract

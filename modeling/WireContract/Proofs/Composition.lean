import Mathlib.Logic.Relation
import Mathlib.Order.RelClasses
import WireContract.Contract.Description
import WireContract.Proofs.Conformance
import WireContract.Proofs.Requirement

/-!
Which properties of a composed definition a walk requires: of each node that it meets at the root those that
the node lists, and those where it meets a node with a flag of its own. All other fields lie deeper, on
paths with dots. Main statements: `asks_below` and `asks_node_iff`, by induction on the walk,
`mem_parts_iff_reached`, that the parts of a model are what gathering its fields gets to, and `meets_iff`, that a
walk meets them as long as none is a reference.
-/

namespace WireContract

namespace SchemaNode

/-- The node that a property stands for where it is reached, with the reference that is followed there. -/
def standing (property : SchemaNode) : SchemaNode :=
  { property.laid with reference := property.referral? }

def Keyed (node : SchemaNode) : Prop := ∀ member ∈ node.members, BodyPath.IsKey member.1

end SchemaNode

namespace Walk

section Deeper

def Deeper (path field : String) : Prop := ∃ rest, field = path ++ "." ++ rest

theorem Deeper.trans {path child field : String} (first : Deeper path child)
    (second : Deeper child field) : Deeper path field := by
  obtain ⟨front, rfl⟩ := first
  obtain ⟨back, rfl⟩ := second
  exact ⟨front ++ "." ++ back, by simp only [String.append_assoc]⟩

theorem Deeper.dotted {path field : String} (deeper : Deeper path field) : '.' ∈ field.toList := by
  obtain ⟨rest, rfl⟩ := deeper
  simp [String.toList_append]

theorem Deeper.ne_empty {path field : String} (deeper : Deeper path field) : field ≠ "" := by
  rintro rfl
  cases deeper.dotted

theorem deeper_slot {path : String} (below : path ≠ "") (property : SchemaNode) (key : String) :
    Deeper path (property.slot (BodyPath.join path key)) := by
  rw [property.slot_join, BodyPath.join, if_neg (by simpa using below)]
  exact ⟨_, rfl⟩

variable {definitions : Definitions} {names : List String}

/-- The fields that a walk requires at a property and beyond it lie deeper than the object, given that
those that it requires from there are on the path of the property or deeper. -/
theorem deeper_of_property {path key field : String} {property : SchemaNode} {listed : Bool}
    (below : path ≠ "")
    (follows : ∀ reference, BodyPath.items (BodyPath.join path key) ≠ "" → ∀ field,
      Asks (follow definitions names (BodyPath.items (BodyPath.join path key)) reference) field →
        field = BodyPath.items (BodyPath.join path key) ∨
          Deeper (BodyPath.items (BodyPath.join path key)) field)
    (overlaid : ∀ items, property.items = some items →
      BodyPath.items (BodyPath.join path key) ≠ "" → ∀ field,
      Asks (node definitions names (BodyPath.items (BodyPath.join path key)) listed
          (property.overlay items)) field →
        field = BodyPath.items (BodyPath.join path key) ∨
          Deeper (BodyPath.items (BodyPath.join path key)) field)
    (plain : BodyPath.join path key ≠ "" → ∀ field,
      Asks (node definitions names (BodyPath.join path key) listed property) field →
        field = BodyPath.join path key ∨ Deeper (BodyPath.join path key) field)
    (asks : Asks (reach (property.slot (BodyPath.join path key)) property.laid listed ++
      beyond definitions names (property.slot (BodyPath.join path key)) property.referral?
        property.laid) field) : Deeper path field := by
  have within := deeper_slot below property key
  have onward {slot : String} (within : Deeper path slot) (cases : field = slot ∨ Deeper slot field) :
      Deeper path field := by
    rcases cases with rfl | deeper
    · exact within
    · exact within.trans deeper
  revert within asks
  refine property.entered (motive := fun slot referral? laid =>
    Asks (reach slot laid listed ++ beyond definitions names slot referral? laid) field →
      Deeper path slot → Deeper path field) ?_ ?_ ?_
  · intro items reference _ _ asks within
    rcases asks_append.mp asks with own | ofFollow
    · exact onward within (.inl (asks_reach.mp own).2.1)
    · exact onward within (follows reference within.ne_empty field ofFollow)
  · intro items found _ asks within
    rw [← node_eq] at asks
    exact onward within
      (overlaid items (SchemaNode.element?_eq_some found).2 within.ne_empty field asks)
  · intro _ asks within
    rw [← node_eq] at asks
    exact onward within (plain within.ne_empty field asks)

theorem asks_below (definitions : Definitions) :
    (∀ names path listed (current : SchemaNode), path ≠ "" →
      ∀ field, Asks (node definitions names path listed current) field →
        field = path ∨ Deeper path field) ∧
    (∀ names path required (members : List (String × SchemaNode)), path ≠ "" →
      ∀ field, Asks (properties definitions names path required members) field → Deeper path field) ∧
    (∀ names path reference, path ≠ "" →
      ∀ field, Asks (follow definitions names path reference) field →
        field = path ∨ Deeper path field) ∧
    (∀ names path (all : List SchemaNode), path ≠ "" →
      ∀ field, Asks (branches definitions names path all) field →
        field = path ∨ Deeper path field) := by
  apply Walk.node.mutual_induct definitions
  case case1 =>
    intro names path listed current follows inBranches inProperties below field asks
    rw [node_eq, asks_append, asks_reach] at asks
    rcases asks with ⟨_, same, _⟩ | asks
    · exact .inl same
    · unfold beyond at asks
      cases refers : current.reference with
      | some reference =>
        rw [refers] at asks
        exact follows reference below field asks
      | none =>
        rw [refers] at asks
        rcases asks_append.mp asks with ofBranches | ofProperties
        · exact inBranches below field ofBranches
        · exact .inr (inProperties below field ofProperties)
  case case2 =>
    intro names path required _ field asks
    rw [properties_nil] at asks
    exact absurd asks (not_asks_nil field)
  case case3 =>
    intro names path required key property rest listed child follows overlaid plain others below field asks
    rw [properties_cons, asks_append] at asks
    rcases asks with ofProperty | ofRest
    · exact deeper_of_property below follows overlaid plain ofProperty
    · exact others below field ofRest
  case case4 =>
    intro names path reference unresolved _ field asks
    rw [follow_unresolved definitions names unresolved] at asks
    exact absurd asks (not_asks_nil field)
  case case5 =>
    intro names path reference name target present resolved isOpen _ field asks
    exact absurd asks (not_asks_follow_open resolved isOpen)
  case case6 =>
    intro names path reference name target present resolved fresh inside below field asks
    rw [asks_follow_fresh resolved fresh] at asks
    exact inside below field asks
  case case7 =>
    intro names path _ field asks
    rw [branches_nil] at asks
    exact absurd asks (not_asks_nil field)
  case case8 =>
    intro names path branch rest follows inside others below field asks
    cases refers : branch.reference with
    | some reference =>
      rw [branches_referral definitions names refers, asks_append] at asks
      exact asks.elim (follows reference below field) (others below field)
    | none =>
      rw [branches_inline definitions names refers, asks_append] at asks
      exact asks.elim (inside below field) (others below field)

end Deeper

structure Point where
  names : List String
  node : SchemaNode

/-- Where a walk goes on from a point without leaving its path: to the definition that a node refers to, or
else to its branches; of a branch that refers to a definition only the definition is reached. -/
inductive Leads (definitions : Definitions) : Point → Point → Prop
  | definition {names : List String} {node target : SchemaNode} {reference name : String}
      (refers : node.reference = some reference)
      (resolves : definitions.Resolves reference name target) (fresh : name ∉ names) :
      Leads definitions ⟨names, node⟩ ⟨name :: names, target⟩
  | branch {names : List String} {node branch : SchemaNode} (inline : node.reference = none)
      (isBranch : branch ∈ node.branches) (alone : branch.reference = none) :
      Leads definitions ⟨names, node⟩ ⟨names, branch⟩
  | definitionOfBranch {names : List String} {node branch target : SchemaNode}
      {reference name : String} (inline : node.reference = none) (isBranch : branch ∈ node.branches)
      (refers : branch.reference = some reference)
      (resolves : definitions.Resolves reference name target) (fresh : name ∉ names) :
      Leads definitions ⟨names, node⟩ ⟨name :: names, target⟩

def Meets (definitions : Definitions) : Point → Point → Prop :=
  Relation.ReflTransGen (Leads definitions)

theorem Meets.eq_of_leaf {definitions : Definitions} {point met : Point}
    (meets : Meets definitions point met) (inline : point.node.reference = none)
    (leaf : point.node.branches = []) : met = point := by
  rcases Relation.ReflTransGen.cases_head meets with rfl | ⟨next, leads, _⟩
  · rfl
  · cases leads with
    | definition refers => cases inline.symm.trans refers
    | branch _ isBranch => rw [leaf] at isBranch; cases isBranch
    | definitionOfBranch _ isBranch => rw [leaf] at isBranch; cases isBranch

def HasFlag (definitions : Definitions) (point : Point) : Prop :=
  ∃ met, Meets definitions point met ∧ met.node.isRequired = true

/-- A point itself makes the walk require a field: that on its path by the flag, or one of its properties. -/
def Point.Demands (definitions : Definitions) (point : Point) (path field : String) : Prop :=
  (path ≠ "" ∧ field = path ∧ point.node.isRequired = true) ∨
    (point.node.reference = none ∧
      Asks (properties definitions point.names path point.node.requiredFields point.node.members) field)

def Demanded (definitions : Definitions) (point : Point) (path field : String) : Prop :=
  ∃ met, Meets definitions point met ∧ met.Demands definitions path field

variable {definitions : Definitions} {path field : String}

theorem Demanded.of_leads {point next : Point} (leads : Leads definitions point next)
    (demanded : Demanded definitions next path field) : Demanded definitions point path field := by
  obtain ⟨met, meets, demands⟩ := demanded
  exact ⟨met, .head leads meets, demands⟩

theorem asks_follow_of_resolves {names : List String} {reference name : String} {target : SchemaNode}
    (resolves : definitions.Resolves reference name target) (fresh : name ∉ names) :
    Asks (follow definitions names path reference) field ↔
      Asks (node definitions (name :: names) path false target) field := by
  obtain ⟨_, resolved⟩ := Definitions.target?_of_resolves resolves
  exact asks_follow_fresh resolved (by simpa using fresh)

theorem asks_branches {names : List String} {branch : SchemaNode} {all : List SchemaNode}
    (isBranch : branch ∈ all)
    (inline : branch.reference = none → Asks (node definitions names path false branch) field)
    (refers : ∀ reference, branch.reference = some reference →
      Asks (follow definitions names path reference) field) :
    Asks (branches definitions names path all) field := by
  induction all with
  | nil => cases isBranch
  | cons first rest ih =>
    cases isReference : first.reference with
    | some reference =>
      rw [branches_referral definitions names isReference, asks_append]
      rcases List.mem_cons.mp isBranch with rfl | later
      · exact .inl (refers reference isReference)
      · exact .inr (ih later)
    | none =>
      rw [branches_inline definitions names isReference, asks_append]
      rcases List.mem_cons.mp isBranch with rfl | later
      · exact .inl (inline isReference)
      · exact .inr (ih later)

theorem asks_of_leads {point next : Point} {listed : Bool} (leads : Leads definitions point next)
    (asks : Asks (node definitions next.names path false next.node) field) :
    Asks (node definitions point.names path listed point.node) field := by
  rw [node_eq, asks_append]
  right
  cases leads with
  | definition refers resolves fresh =>
    rw [refers]
    exact (asks_follow_of_resolves resolves fresh).mpr asks
  | branch inline isBranch alone =>
    rw [inline]
    refine asks_append.mpr (.inl (asks_branches isBranch (fun _ => asks) ?_))
    intro reference refers
    cases alone.symm.trans refers
  | definitionOfBranch inline isBranch refers resolves fresh =>
    rw [inline]
    refine asks_append.mpr (.inl (asks_branches isBranch ?_ ?_))
    · intro alone
      cases alone.symm.trans refers
    · intro other same
      obtain rfl := Option.some.inj (refers.symm.trans same)
      exact (asks_follow_of_resolves resolves fresh).mpr asks

theorem asks_of_demands {point : Point} {listed : Bool}
    (demands : point.Demands definitions path field) :
    Asks (node definitions point.names path listed point.node) field := by
  rw [node_eq, asks_append]
  rcases demands with ⟨below, same, flag⟩ | ⟨inline, asks⟩
  · exact .inl (asks_reach.mpr ⟨below, same, .inl flag⟩)
  · rw [inline]
    exact .inr (asks_append.mpr (.inr asks))

theorem asks_of_demanded {point : Point} {listed : Bool}
    (demanded : Demanded definitions point path field) :
    Asks (node definitions point.names path listed point.node) field := by
  obtain ⟨met, meets, demands⟩ := demanded
  induction meets using Relation.ReflTransGen.head_induction_on generalizing listed with
  | refl => exact asks_of_demands demands
  | head leads _ ih => exact asks_of_leads leads ih

theorem demanded_of_asks (definitions : Definitions) :
    (∀ names path listed (current : SchemaNode),
      ∀ field, Asks (node definitions names path listed current) field →
        (path ≠ "" ∧ field = path ∧ listed = true) ∨
          Demanded definitions ⟨names, current⟩ path field) ∧
    (∀ (_names : List String) (_path : String) (_required : List String)
      (_members : List (String × SchemaNode)), True) ∧
    (∀ names path reference,
      ∀ field, Asks (follow definitions names path reference) field →
        ∃ name target, definitions.Resolves reference name target ∧ name ∉ names ∧
          Demanded definitions ⟨name :: names, target⟩ path field) ∧
    (∀ names path (all : List SchemaNode),
      ∀ field, Asks (branches definitions names path all) field →
        ∀ current : SchemaNode, current.reference = none → all ⊆ current.branches →
          Demanded definitions ⟨names, current⟩ path field) := by
  apply Walk.node.mutual_induct definitions
  case case1 =>
    intro names path listed current follows inBranches _ field asks
    rw [node_eq, asks_append, asks_reach] at asks
    rcases asks with ⟨below, same, flag | isListed⟩ | asks
    · exact .inr ⟨_, .refl, .inl ⟨below, same, flag⟩⟩
    · exact .inl ⟨below, same, isListed⟩
    · right
      unfold beyond at asks
      cases refers : current.reference with
      | some reference =>
        rw [refers] at asks
        obtain ⟨name, target, resolves, fresh, demanded⟩ := follows reference field asks
        exact demanded.of_leads (.definition refers resolves fresh)
      | none =>
        rw [refers] at asks
        rcases asks_append.mp asks with ofBranches | ofProperties
        · exact inBranches field ofBranches current refers (List.Subset.refl _)
        · exact ⟨_, .refl, .inr ⟨refers, ofProperties⟩⟩
  -- properties are not on the path of their object, and what they require is left as it is
  case case2 => intros; trivial
  case case3 => intros; trivial
  case case4 =>
    intro names path reference unresolved field asks
    rw [follow_unresolved definitions names unresolved] at asks
    exact absurd asks (not_asks_nil field)
  case case5 =>
    intro names path reference name target present resolved isOpen field asks
    exact absurd asks (not_asks_follow_open resolved isOpen)
  case case6 =>
    intro names path reference name target present resolved fresh inside field asks
    rw [asks_follow_fresh resolved fresh] at asks
    rcases inside field asks with ⟨_, _, listed⟩ | demanded
    · cases listed
    · exact ⟨name, target, Definitions.resolves_of_target? resolved, by simpa using fresh, demanded⟩
  case case7 =>
    intro names path field asks
    rw [branches_nil] at asks
    exact absurd asks (not_asks_nil field)
  case case8 =>
    intro names path branch rest follows inside others field asks current inline areBranches
    obtain ⟨isBranch, later⟩ := List.cons_subset.mp areBranches
    cases refers : branch.reference with
    | some reference =>
      rw [branches_referral definitions names refers, asks_append] at asks
      rcases asks with ofBranch | ofRest
      · obtain ⟨name, target, resolves, fresh, demanded⟩ := follows reference field ofBranch
        exact demanded.of_leads (.definitionOfBranch inline isBranch refers resolves fresh)
      · exact others field ofRest current inline later
    | none =>
      rw [branches_inline definitions names refers, asks_append] at asks
      rcases asks with ofBranch | ofRest
      · rcases inside field ofBranch with ⟨_, _, listed⟩ | demanded
        · cases listed
        · exact demanded.of_leads (.branch inline isBranch refers)
      · exact others field ofRest current inline later

theorem asks_node_iff {names : List String} {listed : Bool} {current : SchemaNode} :
    Asks (node definitions names path listed current) field ↔
      (path ≠ "" ∧ field = path ∧ listed = true) ∨ Demanded definitions ⟨names, current⟩ path field := by
  constructor
  · exact (demanded_of_asks definitions).1 names path listed current field
  · rintro (⟨below, same, isListed⟩ | demanded)
    · rw [node_eq, asks_append]
      exact .inl (asks_reach.mpr ⟨below, same, .inr isListed⟩)
    · exact asks_of_demanded demanded

theorem asks_undotted_iff {names : List String} {listed : Bool} {current : SchemaNode}
    (below : path ≠ "") (undotted : '.' ∉ field.toList) :
    Asks (node definitions names path listed current) field ↔
      field = path ∧ (listed = true ∨ HasFlag definitions ⟨names, current⟩) := by
  rw [asks_node_iff]
  constructor
  · rintro (⟨_, same, isListed⟩ | ⟨met, meets, ⟨_, same, flag⟩ | ⟨_, asks⟩⟩)
    · exact ⟨same, .inl isListed⟩
    · exact ⟨same, .inr ⟨met, meets, flag⟩⟩
    · exact absurd ((asks_below definitions).2.1 _ _ _ _ below field asks).dotted undotted
  · rintro ⟨same, isListed | ⟨met, meets, flag⟩⟩
    · exact .inl ⟨below, same, isListed⟩
    · exact .inr ⟨met, meets, .inl ⟨below, same, flag⟩⟩

theorem asks_properties_iff {names required : List String} {members : List (String × SchemaNode)}
    (keys : ∀ member ∈ members, BodyPath.IsKey member.1) (undotted : '.' ∉ field.toList) :
    Asks (properties definitions names "" required members) field ↔
      ∃ member ∈ members, field = member.2.slot member.1 ∧
        (member.1 ∈ required ∨ HasFlag definitions ⟨names, member.2.standing⟩) := by
  induction members with
  | nil => simp [properties_nil, Asks]
  | cons member rest ih =>
    obtain ⟨key, property⟩ := member
    have isKey := keys _ (List.mem_cons_self ..)
    have root : BodyPath.join "" key = key := rfl
    have standing : node definitions names (property.slot key) (required.contains key) property.standing =
        reach (property.slot key) property.laid (required.contains key) ++
          beyond definitions names (property.slot key) property.referral? property.laid := by
      rw [node_eq]
      rfl
    rw [properties_cons, root, ← standing, asks_append,
      asks_undotted_iff (property.slot_ne_empty isKey) undotted, List.contains_iff_mem,
      ih fun other later => keys other (List.mem_cons_of_mem _ later)]
    simp only [List.mem_cons, or_and_right, exists_or, exists_eq_left]

/-- The walk of a node at the root requires of the fields on paths without dots those that are properties of
a node that it meets and listed there or flagged. -/
theorem asks_root_iff {names : List String} {current : SchemaNode}
    (keys : ∀ met, Meets definitions ⟨names, current⟩ met → met.node.Keyed) (undotted : '.' ∉ field.toList) :
    Asks (node definitions names "" false current) field ↔
      ∃ met, Meets definitions ⟨names, current⟩ met ∧ met.node.reference = none ∧
        ∃ member ∈ met.node.members, field = member.2.slot member.1 ∧
          (member.1 ∈ met.node.requiredFields ∨ HasFlag definitions ⟨met.names, member.2.standing⟩) := by
  rw [asks_node_iff]
  simp only [ne_eq, not_true_eq_false, false_and, false_or, Demanded, Point.Demands]
  refine exists_congr fun met => and_congr_right fun meets => and_congr_right fun _ => ?_
  exact asks_properties_iff (keys met meets) undotted

end Walk

namespace Model

def partsOf (definitions : Definitions) (seen : List String) (branch : SchemaNode) : List SchemaNode :=
  match branch.reference with
  | some reference =>
    match definitions.target? reference with
    | none => []
    | some ⟨(name, target), _⟩ =>
      if seen.contains name then [] else parts definitions (name :: seen) target
  | none => parts definitions seen branch

theorem partsOf_inline (definitions : Definitions) (seen : List String) {branch : SchemaNode}
    (inline : branch.reference = none) :
    partsOf definitions seen branch = parts definitions seen branch := by
  rw [partsOf, inline]

section Referral

variable {definitions : Definitions} {seen : List String} {branch : SchemaNode} {reference : String}
  (refers : branch.reference = some reference)

include refers

theorem partsOf_unresolved (unresolved : definitions.target? reference = none) :
    partsOf definitions seen branch = [] := by
  simp only [partsOf, refers, unresolved]

variable {name : String} {target : SchemaNode} {present : (name, target).1 ∈ definitions.nodes.keys}
  (resolved : definitions.target? reference = some ⟨(name, target), present⟩)

include resolved

theorem partsOf_open (isOpen : seen.contains name = true) : partsOf definitions seen branch = [] := by
  simp only [partsOf, refers, resolved]
  rw [if_pos isOpen]

theorem partsOf_fresh (fresh : ¬ seen.contains name = true) :
    partsOf definitions seen branch = parts definitions (name :: seen) target := by
  simp only [partsOf, refers, resolved]
  rw [if_neg fresh]

end Referral

theorem parts_eq (definitions : Definitions) (seen : List String) (node : SchemaNode) :
    parts definitions seen node = node.branches.flatMap (partsOf definitions seen) ++ [node] := by
  rw [parts, List.flatMap_subtype (g := partsOf definitions seen), List.unattach_attach]
  intro branch _
  simp only [partsOf]
  cases refers : branch.reference with
  | none => simp only
  | some reference =>
    cases resolved : definitions.target? reference with
    | none => simp only [resolved]
    | some found => simp only [resolved, dite_eq_ite]

theorem self_mem_parts (definitions : Definitions) (seen : List String) (node : SchemaNode) :
    node ∈ parts definitions seen node := by
  rw [parts_eq]
  exact List.mem_append_right _ (List.mem_singleton.mpr rfl)

variable {definitions : Definitions} {names : List String} {node part : SchemaNode}

/-- To gather the fields of a node under the names that are being gathered takes gathering those of another,
under the same names or one more. -/
inductive Gathers (definitions : Definitions) : Walk.Point → Walk.Point → Prop
  | branch {names : List String} {node branch : SchemaNode} (isBranch : branch ∈ node.branches)
      (alone : branch.reference = none) : Gathers definitions ⟨names, node⟩ ⟨names, branch⟩
  | definition {names : List String} {node branch target : SchemaNode} {reference name : String}
      (isBranch : branch ∈ node.branches) (refers : branch.reference = some reference)
      (resolves : definitions.Resolves reference name target) (fresh : name ∉ names) :
      Gathers definitions ⟨names, node⟩ ⟨name :: names, target⟩

/-- However definitions refer to each other, gathering ends: a definition is opened once on a path, and
branches lie deeper. -/
theorem gathers_wellFounded (definitions : Definitions) :
    WellFounded fun later earlier => Gathers definitions earlier later := by
  let size (point : Walk.Point) : Nat × Nat := (definitions.remaining point.names, point.node.descent)
  refine Subrelation.wf ?_ (InvImage.wf size (wellFounded_lt.prod_lex wellFounded_lt))
  intro later earlier gathers
  show Prod.Lex (· < ·) (· < ·) (size later) (size earlier)
  cases gathers with
  | @branch names node branch isBranch alone =>
    have member := List.sizeOf_lt_of_mem isBranch
    have above := node.sizeOf_branches_lt
    have below := branch.descent_lt_sizeOf
    exact Prod.Lex.right _ (show branch.descent < node.descent by omega)
  | definition isBranch refers resolves fresh =>
    refine Prod.Lex.left _ _ (Definitions.remaining_lt ?_ (by simpa using fresh))
    exact List.mem_map.mpr ⟨(_, _), Dict.get?_eq_some_iff.mp resolves.2, rfl⟩

theorem mem_parts_iff_gathers :
    part ∈ parts definitions names node ↔
      part = node ∨
        ∃ next, Gathers definitions ⟨names, node⟩ next ∧ part ∈ parts definitions next.names next.node := by
  rw [parts_eq, List.mem_append, List.mem_flatMap, List.mem_singleton, or_comm]
  refine or_congr_right ⟨?_, ?_⟩
  · rintro ⟨branch, isBranch, isPart⟩
    cases refers : branch.reference with
    | none =>
      rw [partsOf_inline definitions names refers] at isPart
      exact ⟨⟨names, branch⟩, .branch isBranch refers, isPart⟩
    | some reference =>
      cases resolved : definitions.target? reference with
      | none =>
        rw [partsOf_unresolved refers resolved] at isPart
        cases isPart
      | some found =>
        obtain ⟨⟨other, target⟩, present⟩ := found
        by_cases isOpen : names.contains other = true
        · rw [partsOf_open refers resolved isOpen] at isPart
          cases isPart
        · rw [partsOf_fresh refers resolved isOpen] at isPart
          exact ⟨⟨other :: names, target⟩, .definition isBranch refers
            (Definitions.resolves_of_target? resolved) (by simpa using isOpen), isPart⟩
  · rintro ⟨next, gathers, isPart⟩
    cases gathers with
    | @branch _ _ branch isBranch alone =>
      refine ⟨branch, isBranch, ?_⟩
      rw [partsOf_inline definitions names alone]
      exact isPart
    | @definition _ _ branch target reference other isBranch refers resolves fresh =>
      obtain ⟨_, resolved⟩ := Definitions.target?_of_resolves resolves
      refine ⟨branch, isBranch, ?_⟩
      rw [partsOf_fresh refers resolved (by simpa using fresh)]
      exact isPart

theorem mem_parts_iff_reached :
    part ∈ parts definitions names node ↔
      ∃ within, Relation.ReflTransGen (Gathers definitions) ⟨names, node⟩ ⟨within, part⟩ := by
  constructor
  · intro isPart
    induction point : Walk.Point.mk names node using (gathers_wellFounded definitions).induction
        generalizing names node with
    | _ _ ih =>
      subst point
      rcases mem_parts_iff_gathers.mp isPart with rfl | ⟨next, gathers, isPart⟩
      · exact ⟨names, .refl⟩
      · obtain ⟨within, reached⟩ := ih next gathers isPart rfl
        exact ⟨within, .head gathers reached⟩
  · rintro ⟨within, reached⟩
    generalize start : Walk.Point.mk names node = point at reached
    induction reached using Relation.ReflTransGen.head_induction_on generalizing names node with
    | refl =>
      cases start
      exact self_mem_parts definitions within part
    | head gathers _ ih =>
      subst start
      exact mem_parts_iff_gathers.mpr (.inr ⟨_, gathers, ih rfl⟩)

theorem Gathers.parts_subset {point next : Walk.Point} (gathers : Gathers definitions point next) :
    parts definitions next.names next.node ⊆ parts definitions point.names point.node :=
  fun _ isPart => mem_parts_iff_gathers.mpr (.inr ⟨next, gathers, isPart⟩)

theorem leads_iff_gathers {point next : Walk.Point} (inline : point.node.reference = none) :
    Walk.Leads definitions point next ↔ Gathers definitions point next := by
  constructor
  · intro leads
    cases leads with
    | definition refers => cases inline.symm.trans refers
    | branch _ isBranch alone => exact .branch isBranch alone
    | definitionOfBranch _ isBranch refers resolves fresh =>
      exact .definition isBranch refers resolves fresh
  · intro gathers
    cases gathers with
    | branch isBranch alone => exact .branch inline isBranch alone
    | definition isBranch refers resolves fresh =>
      exact .definitionOfBranch inline isBranch refers resolves fresh

/-- As long as there are no references among the parts, a walk meets what gathering gets to. -/
theorem meets_iff_gathered {point met : Walk.Point}
    (inline : ∀ part ∈ parts definitions point.names point.node, part.reference = none) :
    Walk.Meets definitions point met ↔ Relation.ReflTransGen (Gathers definitions) point met := by
  constructor
  · intro meets
    induction meets using Relation.ReflTransGen.head_induction_on with
    | refl => exact .refl
    | head leads _ ih =>
      have gathers := (leads_iff_gathers (inline _ (self_mem_parts definitions _ _))).mp leads
      exact .head gathers (ih fun part isPart => inline part (gathers.parts_subset isPart))
  · intro reached
    induction reached using Relation.ReflTransGen.head_induction_on with
    | refl => exact .refl
    | head gathers _ ih =>
      have leads := (leads_iff_gathers (inline _ (self_mem_parts definitions _ _))).mpr gathers
      exact .head leads (ih fun part isPart => inline part (gathers.parts_subset isPart))

theorem mem_parts_of_meets {point met : Walk.Point} (meets : Walk.Meets definitions point met)
    (inline : ∀ part ∈ parts definitions point.names point.node, part.reference = none) :
    met.node ∈ parts definitions point.names point.node :=
  mem_parts_iff_reached.mpr ⟨met.names, (meets_iff_gathered inline).mp meets⟩

theorem exists_meets_of_mem_parts (isPart : part ∈ parts definitions names node)
    (inline : ∀ part ∈ parts definitions names node, part.reference = none) :
    ∃ within, Walk.Meets definitions ⟨names, node⟩ ⟨within, part⟩ := by
  obtain ⟨within, reached⟩ := mem_parts_iff_reached.mp isPart
  exact ⟨within, (meets_iff_gathered inline).mpr reached⟩

/-- The walk of an object meets its parts, provided that none of them is a reference. -/
theorem meets_iff
    (inline : ∀ part ∈ parts definitions names node, part.reference = none) :
    (∃ within, Walk.Meets definitions ⟨names, node⟩ ⟨within, part⟩) ↔
      part ∈ parts definitions names node := by
  constructor
  · rintro ⟨_, meets⟩
    exact mem_parts_of_meets meets inline
  · intro isPart
    exact exists_meets_of_mem_parts isPart inline

end Model
end WireContract

import Mathlib.Data.Multiset.AddSub
import WireContract.Contract.Reach
import WireContract.Proofs.Inlining

/-!
Which definitions are collected from given names. The names that are still to be looked up are taken in any
order, and what a definition mentions is added to them. Main statements: `takes_wellFounded`, that every
such collection ends, and `mem_found_iff`, that in the end it has found the definitions that the names lead
to, whatever the order was.
-/

namespace WireContract

namespace SchemaNode

inductive Holds : SchemaNode → SchemaNode → Prop
  | items {node part : SchemaNode} (isItems : node.items = some part) : Holds node part
  | branch {node part : SchemaNode} (isBranch : part ∈ node.branches) : Holds node part
  | property {node part : SchemaNode} {key : String} (isMember : (key, part) ∈ node.members) :
      Holds node part

def Mentions (node : SchemaNode) (reference : String) : Prop :=
  ∃ part, Relation.ReflTransGen Holds node part ∧ part.reference = some reference

theorem Holds.sizeOf_lt {node part : SchemaNode} (holds : Holds node part) :
    sizeOf part < sizeOf node := by
  have below := node.descent_lt_sizeOf
  cases holds with
  | items isItems => exact sizeOf_items_lt isItems
  | branch isBranch =>
    have inBranches := List.sizeOf_lt_of_mem isBranch
    have ofBranches := node.sizeOf_branches_lt
    omega
  | property isMember =>
    have inMembers := List.sizeOf_lt_of_mem isMember
    have ofMembers := node.sizeOf_members_lt
    rw [Prod.mk.sizeOf_spec] at inMembers
    omega

end SchemaNode

namespace Definitions

variable {definitions : Definitions}

def Defines (definitions : Definitions) (name : String) : Prop :=
  ∃ node, definitions.nodes.get? name = some node

theorem Defines.of_leads {start name : String} (defined : definitions.Defines name)
    (leads : Relation.ReflTransGen definitions.Refers start name) : definitions.Defines start := by
  rcases leads.cases_head with rfl | ⟨_, refers, _⟩
  · exact defined
  · exact refers.imp fun _ known => known.1

theorem mem_ofItems_iff {items : Option SchemaNode} {name : String} :
    name ∈ definitions.ofItems items ↔ ∃ part, items = some part ∧ name ∈ definitions.references part := by
  cases items with
  | none => simp [ofItems]
  | some part => simp [ofItems]

theorem mem_ofNodes_iff {nodes : List SchemaNode} {name : String} :
    name ∈ definitions.ofNodes nodes ↔ ∃ part ∈ nodes, name ∈ definitions.references part := by
  induction nodes with
  | nil => simp [ofNodes]
  | cons first rest ih => rw [ofNodes_cons, List.mem_append, ih, List.exists_mem_cons_iff]

theorem mem_ofMembers_iff {members : List (String × SchemaNode)} {name : String} :
    name ∈ definitions.ofMembers members ↔
      ∃ member ∈ members, name ∈ definitions.references member.2 := by
  induction members with
  | nil => simp [ofMembers]
  | cons first rest ih => rw [ofMembers_cons, List.mem_append, ih, List.exists_mem_cons_iff]

theorem mem_references_iff_holds {node : SchemaNode} {name : String} :
    name ∈ definitions.references node ↔
      (∃ reference, node.reference = some reference ∧ nameIn? definitions.root reference = some name) ∨
        ∃ part, node.Holds part ∧ name ∈ definitions.references part := by
  rw [mem_references_iff, ofBranches_eq, ofProperties_eq, mem_ofItems_iff, mem_ofNodes_iff,
    mem_ofMembers_iff, Option.mem_toList, Option.bind_eq_some_iff]
  refine or_congr_right ⟨?_, ?_⟩
  · rintro (⟨part, isItems, inPart⟩ | ⟨part, isBranch, inPart⟩ | ⟨⟨key, part⟩, isMember, inPart⟩)
    · exact ⟨part, .items isItems, inPart⟩
    · exact ⟨part, .branch isBranch, inPart⟩
    · exact ⟨part, .property isMember, inPart⟩
  · rintro ⟨part, holds, inPart⟩
    cases holds with
    | items isItems => exact .inl ⟨part, isItems, inPart⟩
    | branch isBranch => exact .inr (.inl ⟨part, isBranch, inPart⟩)
    | property isMember => exact .inr (.inr ⟨_, isMember, inPart⟩)

theorem exists_mentions_of_mem_references {node : SchemaNode} {name : String}
    (member : name ∈ definitions.references node) :
    ∃ reference, node.Mentions reference ∧ nameIn? definitions.root reference = some name := by
  rcases mem_references_iff_holds.mp member with ⟨reference, own, isName⟩ | ⟨part, _holds, inPart⟩
  · exact ⟨reference, ⟨node, .refl, own⟩, isName⟩
  · obtain ⟨reference, ⟨deep, within, refers⟩, isName⟩ := exists_mentions_of_mem_references inPart
    exact ⟨reference, ⟨deep, .head _holds within, refers⟩, isName⟩
termination_by sizeOf node
decreasing_by exact _holds.sizeOf_lt

theorem mem_references_iff_mentions {node : SchemaNode} {name : String} :
    name ∈ definitions.references node ↔
      ∃ reference, node.Mentions reference ∧ nameIn? definitions.root reference = some name := by
  constructor
  · exact exists_mentions_of_mem_references
  · rintro ⟨reference, ⟨part, within, refers⟩, isName⟩
    induction within using Relation.ReflTransGen.head_induction_on with
    | refl => exact mem_references_iff_holds.mpr (.inl ⟨reference, refers, isName⟩)
    | head holds _ ih => exact mem_references_iff_holds.mpr (.inr ⟨_, holds, ih⟩)

/-- A collection on its way: the definitions found, and the names that are still to be looked up. -/
structure Collection where
  found : List String
  pending : Multiset String

inductive Takes (definitions : Definitions) : Collection → Collection → Prop
  | again {found : List String} {pending : Multiset String} {name : String} (isFound : name ∈ found) :
      Takes definitions ⟨found, name ::ₘ pending⟩ ⟨found, pending⟩
  | missing {found : List String} {pending : Multiset String} {name : String}
      (unknown : definitions.nodes.get? name = none) :
      Takes definitions ⟨found, name ::ₘ pending⟩ ⟨found, pending⟩
  | finds {found : List String} {pending : Multiset String} {name : String} {node : SchemaNode}
      (fresh : name ∉ found) (known : definitions.nodes.get? name = some node) :
      Takes definitions ⟨found, name ::ₘ pending⟩
        ⟨name :: found, (definitions.references node : Multiset String) + pending⟩

/-- However names are taken, a collection ends: a definition is found once, and all other steps leave fewer
names. -/
theorem takes_wellFounded (definitions : Definitions) :
    WellFounded fun later earlier => Takes definitions earlier later := by
  let size (state : Collection) : Nat × Nat := (definitions.remaining state.found, state.pending.card)
  refine Subrelation.wf ?_ (InvImage.wf size (wellFounded_lt.prod_lex wellFounded_lt))
  intro later earlier takes
  show Prod.Lex (· < ·) (· < ·) (size later) (size earlier)
  cases takes with
  | again => exact Prod.Lex.right _ (by simp)
  | missing => exact Prod.Lex.right _ (by simp)
  | finds fresh known =>
    refine Prod.Lex.left _ _ (remaining_lt ?_ (by simpa using fresh))
    exact List.mem_map.mpr ⟨(_, _), Dict.get?_eq_some_iff.mp known, rfl⟩

/-- A collection that began with `seeds`: what it has found is defined, whatever it has to do with comes from
the seeds, and nothing that it has to find is forgotten. -/
structure Collection.Sound (definitions : Definitions) (seeds : List String) (state : Collection) :
    Prop where
  defined : ∀ name ∈ state.found, definitions.Defines name
  led : ∀ name, name ∈ state.found ∨ name ∈ state.pending →
    ∃ seed ∈ seeds, Relation.ReflTransGen definitions.Refers seed name
  seeds : ∀ name ∈ seeds, definitions.Defines name → name ∈ state.found ∨ name ∈ state.pending
  closed : ∀ name ∈ state.found, ∀ other, definitions.Refers name other → definitions.Defines other →
    other ∈ state.found ∨ other ∈ state.pending

namespace Collection

variable {seeds : List String}

theorem Sound.start (seeds : List String) : Sound definitions seeds ⟨[], seeds⟩ where
  defined := by simp
  led name := by
    rintro (isFound | isSeed)
    · cases isFound
    · exact ⟨name, by simpa using isSeed, .refl⟩
  seeds name isSeed _ := .inr (by simpa using isSeed)
  closed := by simp

theorem Sound.drop {found : List String} {pending : Multiset String} {name : String}
    (sound : Sound definitions seeds ⟨found, name ::ₘ pending⟩)
    (settled : definitions.Defines name → name ∈ found) : Sound definitions seeds ⟨found, pending⟩ := by
  have kept {other : String} (defined : definitions.Defines other)
      (among : other ∈ found ∨ other ∈ name ::ₘ pending) : other ∈ found ∨ other ∈ pending := by
    rcases among with isFound | isPending
    · exact .inl isFound
    · rcases Multiset.mem_cons.mp isPending with rfl | later
      · exact .inl (settled defined)
      · exact .inr later
  refine ⟨sound.defined, ?_, ?_, ?_⟩
  · intro other among
    exact sound.led other (among.imp_right Multiset.mem_cons_of_mem)
  · intro other isSeed defined
    exact kept defined (sound.seeds other isSeed defined)
  · intro one isFound other refers defined
    exact kept defined (sound.closed one isFound other refers defined)

theorem Sound.find {found : List String} {pending : Multiset String} {name : String} {node : SchemaNode}
    (sound : Sound definitions seeds ⟨found, name ::ₘ pending⟩)
    (known : definitions.nodes.get? name = some node) :
    Sound definitions seeds
      ⟨name :: found, (definitions.references node : Multiset String) + pending⟩ := by
  have refersTo {other : String} : definitions.Refers name other ↔ other ∈ definitions.references node := by
    simp [Refers, known]
  have kept {other : String} (among : other ∈ found ∨ other ∈ name ::ₘ pending) :
      other ∈ name :: found ∨ other ∈ (definitions.references node : Multiset String) + pending := by
    rcases among with isFound | isPending
    · exact .inl (.tail _ isFound)
    · rcases Multiset.mem_cons.mp isPending with rfl | later
      · exact .inl (.head _)
      · exact .inr (Multiset.mem_add.mpr (.inr later))
  have ledTo : ∃ seed ∈ seeds, Relation.ReflTransGen definitions.Refers seed name :=
    sound.led name (.inr (Multiset.mem_cons_self ..))
  refine ⟨?_, ?_, ?_, ?_⟩
  · intro other isFound
    rcases List.mem_cons.mp isFound with rfl | before
    · exact ⟨node, known⟩
    · exact sound.defined other before
  · rintro other (isFound | isPending)
    · rcases List.mem_cons.mp isFound with rfl | before
      · exact ledTo
      · exact sound.led other (.inl before)
    · rcases Multiset.mem_add.mp isPending with isNew | later
      · obtain ⟨seed, isSeed, leads⟩ := ledTo
        exact ⟨seed, isSeed, leads.tail (refersTo.mpr (Multiset.mem_coe.mp isNew))⟩
      · exact sound.led other (.inr (Multiset.mem_cons_of_mem later))
  · intro other isSeed defined
    exact kept (sound.seeds other isSeed defined)
  · intro one isFound other refers defined
    rcases List.mem_cons.mp isFound with rfl | before
    · exact .inr (Multiset.mem_add.mpr (.inl (Multiset.mem_coe.mpr (refersTo.mp refers))))
    · exact kept (sound.closed one before other refers defined)

theorem Sound.takes {earlier later : Collection} (sound : Sound definitions seeds earlier)
    (takes : Takes definitions earlier later) : Sound definitions seeds later := by
  cases takes with
  | again isFound => exact sound.drop fun _ => isFound
  | missing unknown =>
    refine sound.drop ?_
    rintro ⟨node, known⟩
    rw [unknown] at known
    cases known
  | finds _ known => exact sound.find known

theorem Sound.runs {earlier later : Collection} (sound : Sound definitions seeds earlier)
    (runs : Relation.ReflTransGen (Takes definitions) earlier later) : Sound definitions seeds later := by
  induction runs with
  | refl => exact sound
  | tail _ takes ih => exact ih.takes takes

/-- A collection without pending names has found every definition that the seeds lead to. -/
theorem Sound.mem_found_iff {found : List String} (sound : Sound definitions seeds ⟨found, 0⟩)
    {name : String} :
    name ∈ found ↔
      definitions.Defines name ∧ ∃ seed ∈ seeds, Relation.ReflTransGen definitions.Refers seed name := by
  have noPending {other : String} : ¬ other ∈ (0 : Multiset String) := Multiset.notMem_zero other
  constructor
  · intro isFound
    exact ⟨sound.defined name isFound, sound.led name (.inl isFound)⟩
  · rintro ⟨defined, seed, isSeed, leads⟩
    induction leads with
    | refl => exact (sound.seeds seed isSeed defined).resolve_right noPending
    | tail _ refers ih =>
      exact (sound.closed _ (ih (defined.of_leads (.single refers))) _ refers defined).resolve_right
        noPending

end Collection

theorem mem_found_iff {seeds found : List String}
    (runs : Relation.ReflTransGen (Takes definitions) ⟨[], seeds⟩ ⟨found, 0⟩) {name : String} :
    name ∈ found ↔
      definitions.Defines name ∧ ∃ seed ∈ seeds, Relation.ReflTransGen definitions.Refers seed name :=
  ((Collection.Sound.start seeds).runs runs).mem_found_iff

theorem runs_reach (definitions : Definitions) (seen pending : List String) :
    Relation.ReflTransGen (Takes definitions) ⟨seen, pending⟩ ⟨definitions.reach seen pending, 0⟩ := by
  fun_induction reach definitions seen pending with
  | case1 => exact .refl
  | case2 seen name pending isSeen ih =>
    rw [← Multiset.cons_coe]
    exact .head (.again (by simpa using isSeen)) ih
  | case3 seen name pending _ unknown ih =>
    rw [← Multiset.cons_coe]
    exact .head (.missing unknown) ih
  | case4 seen name pending fresh node known ih =>
    rw [← Multiset.cons_coe]
    refine .head (.finds (by simpa using fresh) known) ?_
    rw [Multiset.coe_add]
    exact ih

theorem mem_reach_iff {seeds : List String} {name : String} :
    name ∈ definitions.reach [] seeds ↔
      definitions.Defines name ∧ ∃ seed ∈ seeds, Relation.ReflTransGen definitions.Refers seed name :=
  mem_found_iff (runs_reach definitions [] seeds)

end Definitions
end WireContract

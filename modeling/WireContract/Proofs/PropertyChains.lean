import WireContract.Proofs.ChainPaths
import WireContract.Proofs.Entering

namespace WireContract

def SchemaNode.link (property : SchemaNode) (key : String) : Link := ⟨key, property.element?.isSome⟩

namespace BodyPath

theorem chainPath_concat (chain : List Link) (link : Link) :
    chainPath (chain ++ [link]) = join (chainPath chain) link.slot := by
  rw [chainPath, List.foldl_append, List.foldl_cons, List.foldl_nil, chainPath]

theorem chainPath_property (chain : List Link) (property : SchemaNode) (key : String) :
    chainPath (chain ++ [property.link key]) = property.slot (join (chainPath chain) key) := by
  rw [chainPath_concat, property.slot_join]
  rfl

end BodyPath

namespace Walk

/-- The walk of a body schema comes along a chain of properties to a node: `names` are the definitions that
are open there, the latest first, and `referral?` is the reference that is followed from there. -/
inductive Along (definitions : Definitions) (schema : SchemaNode) :
    (names : List String) → (chain : List Link) → (referral? : Option String) → SchemaNode → Prop
  /-- the schema itself -/
  | root : Along definitions schema [] [] schema.reference schema
  /-- a reference to a definition that is not open -/
  | definition {names : List String} {chain : List Link} {reference name : String}
      {node target : SchemaNode} (along : Along definitions schema names chain (some reference) node)
      (resolves : definitions.Resolves reference name target) (fresh : name ∉ names) :
      Along definitions schema (name :: names) chain target.reference target
  /-- a branch that a node is composed of -/
  | branch {names : List String} {chain : List Link} {node branch : SchemaNode}
      (along : Along definitions schema names chain none node) (isBranch : branch ∈ node.branches) :
      Along definitions schema names chain branch.reference branch
  /-- a property, or the items of one that is an array -/
  | property {names : List String} {chain : List Link} {key : String} {node property : SchemaNode}
      (along : Along definitions schema names chain none node)
      (isMember : (key, property) ∈ node.members) :
      Along definitions schema names (chain ++ [property.link key]) property.referral? property.laid

def HasChain (definitions : Definitions) (schema : SchemaNode) (chain : List Link) : Prop :=
  ∃ names referral? node, Along definitions schema names chain referral? node

def Arrives (steps : List WalkStep) (path : String) : Prop := ∃ keywords, .field path keywords ∈ steps

theorem not_arrives_nil (path : String) : ¬ Arrives [] path := by
  rintro ⟨_, isStep⟩
  cases isStep

theorem arrives_append {front back : List WalkStep} {path : String} :
    Arrives (front ++ back) path ↔ Arrives front path ∨ Arrives back path := by
  simp only [Arrives, List.mem_append, exists_or]

theorem arrives_reach {path field : String} {node : SchemaNode} {listed : Bool} :
    Arrives (reach path node listed) field ↔ path ≠ "" ∧ field = path := by
  by_cases root : path = "" <;> simp [Arrives, reach, root]

variable {definitions : Definitions} {schema : SchemaNode}

namespace Along

variable {names : List String} {chain : List Link} {referral? : Option String} {node : SchemaNode}

theorem beyond_subset (along : Along definitions schema names chain referral? node) :
    beyond definitions names (BodyPath.chainPath chain) referral? node ⊆ Walk.body definitions schema := by
  induction along with
  | root => exact beyond_subset_body definitions schema
  | definition _ resolves fresh ih =>
    exact List.Subset.trans (List.append_subset.mp (definition_subset_follow resolves fresh)).2 ih
  | branch _ isBranch ih =>
    have ofBranches := List.Subset.trans (List.subset_append_left _ _) ih
    exact List.Subset.trans (beyond_subset_branches isBranch) ofBranches
  | property _ isMember ih =>
    have ofProperties := List.Subset.trans (List.subset_append_right _ _) ih
    rw [BodyPath.chainPath_property]
    exact List.Subset.trans (List.append_subset.mp (property_subset_properties _ isMember)).2 ofProperties

theorem arrives (along : Along definitions schema names chain referral? node)
    (field : BodyPath.chainPath chain ≠ "") :
    Arrives (Walk.body definitions schema) (BodyPath.chainPath chain) := by
  induction along with
  | root => exact absurd rfl field
  | definition _ _ _ ih => exact ih field
  | branch _ _ ih => exact ih field
  | @property names chain key node property along isMember _ =>
    have ofProperties := List.Subset.trans (List.subset_append_right _ _) along.beyond_subset
    have steps := List.Subset.trans (property_subset_properties node.requiredFields isMember) ofProperties
    rw [BodyPath.chainPath_property] at field ⊢
    exact ⟨_, steps (List.mem_append_left _ (mem_reach field _ _))⟩

end Along

def Named (definitions : Definitions) (schema : SchemaNode) (steps : List WalkStep) : Prop :=
  ∀ field, Arrives steps field →
    field ≠ "" ∧ ∃ chain, HasChain definitions schema chain ∧ BodyPath.chainPath chain = field

theorem named_append {front back : List WalkStep} (first : Named definitions schema front)
    (second : Named definitions schema back) : Named definitions schema (front ++ back) :=
  fun field arrives => (arrives_append.mp arrives).elim (first field) (second field)

theorem named_nil : Named definitions schema [] := fun field arrives => absurd arrives (not_arrives_nil field)

theorem Along.named_reach {names : List String} {chain : List Link} {referral? : Option String}
    {node : SchemaNode} (along : Along definitions schema names chain referral? node) (reached : SchemaNode)
    (listed : Bool) : Named definitions schema (reach (BodyPath.chainPath chain) reached listed) := by
  intro field arrives
  obtain ⟨notEmpty, rfl⟩ := arrives_reach.mp arrives
  exact ⟨notEmpty, chain, ⟨names, referral?, node, along⟩, rfl⟩

theorem named_of_along (definitions : Definitions) (schema : SchemaNode) :
    (∀ names path listed (current : SchemaNode), ∀ chain, BodyPath.chainPath chain = path →
      Along definitions schema names chain current.reference current →
        Named definitions schema (node definitions names path listed current)) ∧
    (∀ names path required (members : List (String × SchemaNode)), ∀ chain node,
      BodyPath.chainPath chain = path → Along definitions schema names chain none node →
        members ⊆ node.members → Named definitions schema (properties definitions names path required members)) ∧
    (∀ names path reference, ∀ chain node, BodyPath.chainPath chain = path →
      Along definitions schema names chain (some reference) node →
        Named definitions schema (follow definitions names path reference)) ∧
    (∀ names path (all : List SchemaNode), ∀ chain node, BodyPath.chainPath chain = path →
      Along definitions schema names chain none node → all ⊆ node.branches →
        Named definitions schema (branches definitions names path all)) := by
  apply Walk.node.mutual_induct definitions
  case case1 =>
    rintro names path listed current follows inBranches inProperties chain rfl along
    rw [node_eq]
    refine named_append (along.named_reach current listed) ?_
    unfold beyond
    cases refers : current.reference with
    | some reference =>
      rw [refers] at along
      exact follows reference chain current rfl along
    | none =>
      rw [refers] at along
      exact named_append (inBranches chain current rfl along (List.Subset.refl _))
        (inProperties chain current rfl along (List.Subset.refl _))
  case case2 =>
    intro names path required _ _ _ _ _
    rw [properties_nil]
    exact named_nil
  case case3 =>
    rintro names path required key property rest listed child follows overlaid plain others chain node rfl
      along within
    have later := others chain node rfl along (List.Subset.trans (List.subset_cons_self _ _) within)
    rw [properties_cons]
    refine named_append ?_ later
    have isPath := BodyPath.chainPath_property chain property key
    have onward := along.property (within (.head _))
    -- in each of the three ways to enter a property one of the hypotheses applies
    revert isPath onward
    refine property.entered (motive := fun slot referral? laid =>
      BodyPath.chainPath (chain ++ [property.link key]) = slot →
        Along definitions schema names (chain ++ [property.link key]) referral? laid →
          Named definitions schema
            (reach slot laid listed ++ beyond definitions names slot referral? laid)) ?_ ?_ ?_
    · intro items reference _ _ isPath onward
      have own := onward.named_reach property listed
      rw [isPath] at own
      exact named_append own (follows reference _ _ isPath onward)
    · intro items found _ isPath onward
      rw [← node_eq]
      exact overlaid items (SchemaNode.element?_eq_some found).2 _ isPath onward
    · intro _ isPath onward
      rw [← node_eq]
      exact plain _ isPath onward
  case case4 =>
    intro names path reference unresolved _ _ _ _
    rw [follow_unresolved definitions names unresolved]
    exact named_nil
  case case5 =>
    intro names path reference name target present resolved isOpen _ _ _ _ field arrives
    rw [follow_open definitions names resolved isOpen] at arrives
    simp [Arrives] at arrives
  case case6 =>
    rintro names path reference name target present resolved fresh inside chain node rfl along field arrives
    rw [follow_fresh definitions names resolved fresh] at arrives
    have within : Arrives (Walk.node definitions (name :: names) (BodyPath.chainPath chain) false target) field := by
      simpa [Arrives] using arrives
    have onward := along.definition (Definitions.resolves_of_target? resolved) (by simpa using fresh)
    exact inside chain rfl onward field within
  case case7 =>
    intro names path _ _ _ _ _
    rw [branches_nil]
    exact named_nil
  case case8 =>
    rintro names path branch rest follows inside others chain node rfl along within
    have onward := along.branch (within (.head _))
    have later := others chain node rfl along (List.Subset.trans (List.subset_cons_self _ _) within)
    cases refers : branch.reference with
    | some reference =>
      rw [branches_referral definitions names refers]
      rw [refers] at onward
      exact named_append (follows reference chain branch rfl onward) later
    | none =>
      rw [branches_inline definitions names refers]
      exact named_append (inside chain rfl onward) later

/-- The fields of a body schema are on the paths of its chains, as far as these are not empty; a schema
without properties or branches is on the mark of the whole body. -/
theorem arrives_body_iff (definitions : Definitions) (schema : SchemaNode) (path : String) :
    Arrives (Walk.body definitions schema) path ↔
      (path ≠ "" ∧ ∃ chain, HasChain definitions schema chain ∧ BodyPath.chainPath chain = path) ∨
        (schema.reference = none ∧ schema.isComposite = false ∧ path = BodyPath.wholeBody) := by
  have named : Named definitions schema (beyond definitions [] "" schema.reference schema) := by
    have ofNode := (named_of_along definitions schema).1 [] "" false schema [] rfl .root
    rwa [node_eq] at ofNode
  constructor
  · intro arrives
    rw [body_eq] at arrives
    split at arrives
    · exact .inl (named path arrives)
    · next scalar =>
      rw [Bool.or_eq_true, not_or, Bool.not_eq_true, Bool.not_eq_true, Option.isSome_eq_false_iff,
        Option.isNone_iff_eq_none] at scalar
      exact .inr ⟨scalar.1, scalar.2, (arrives_reach.mp arrives).2⟩
  · rintro (⟨field, chain, ⟨names, referral?, node, along⟩, rfl⟩ | ⟨inline, plain, rfl⟩)
    · exact along.arrives field
    · rw [body_eq, inline, plain]
      exact arrives_reach.mpr ⟨by decide, rfl⟩

/-- The fields of a body schema are on the paths of its chains of properties. Such a path leads, in every
body, to the values at its chain exactly if every key of the chain can be told from its segment, and no two
such chains have one path. -/
theorem body_paths_name_chains (definitions : Definitions) (schema : SchemaNode) :
    (∀ path, Arrives (Walk.body definitions schema) path ↔
      (path ≠ "" ∧ ∃ chain, HasChain definitions schema chain ∧ BodyPath.chainPath chain = path) ∨
        (schema.reference = none ∧ schema.isComposite = false ∧ path = BodyPath.wholeBody)) ∧
      (∀ chain, HasChain definitions schema chain → BodyPath.chainPath chain ≠ "" →
        ((∀ body, BodyPath.resolve (BodyPath.segments (BodyPath.chainPath chain)) body =
            BodyPath.valuesAt chain body) ↔
          BodyPath.Legible chain ∧ ∀ link ∈ chain.getLast?, link.slot ≠ BodyPath.wholeBody)) ∧
      ∀ chain other, HasChain definitions schema chain → HasChain definitions schema other →
        BodyPath.Legible chain → BodyPath.Legible other →
          BodyPath.chainPath chain = BodyPath.chainPath other → chain = other :=
  ⟨arrives_body_iff definitions schema,
    fun _ _ field => BodyPath.resolve_chainPath_iff field,
    fun _ _ _ _ legible otherLegible same => BodyPath.chainPath_injective legible otherLegible same⟩

def dotted : SchemaNode :=
  { (∅ : SchemaNode) with
    properties := some [("a", { (∅ : SchemaNode) with properties := some [("b", ∅)] }), ("a.b", ∅)] }

/-- A key with a dot is read as two keys: its path is that of another chain, and leads to nothing in a body
that has the key. -/
theorem dotted_key_misread :
    HasChain ⟨∅, Definitions.defaultRoot⟩ dotted [⟨"a.b", false⟩] ∧
      HasChain ⟨∅, Definitions.defaultRoot⟩ dotted [⟨"a", false⟩, ⟨"b", false⟩] ∧
      BodyPath.chainPath [⟨"a.b", false⟩] = BodyPath.chainPath [⟨"a", false⟩, ⟨"b", false⟩] ∧
      BodyPath.resolve (BodyPath.segments (BodyPath.chainPath [⟨"a.b", false⟩]))
          (.object [("a.b", .bool true)]) = [] ∧
      BodyPath.valuesAt [⟨"a.b", false⟩] (.object [("a.b", .bool true)]) = [.bool true] := by
  have start : Along ⟨∅, Definitions.defaultRoot⟩ dotted [] [] none dotted := .root
  have isMember : ("a.b", (∅ : SchemaNode)) ∈ dotted.members := .tail _ (.head _)
  have outer := start.property (List.mem_cons_self : _ ∈ dotted.members)
  have isInner : ("b", (∅ : SchemaNode)) ∈
      ({ (∅ : SchemaNode) with properties := some [("b", ∅)] } : SchemaNode).members := .head _
  refine ⟨⟨_, _, _, start.property isMember⟩, ⟨_, _, _, outer.property isInner⟩, rfl, rfl, rfl⟩

end Walk
end WireContract

import WireContract.Proofs.Composition
import WireContract.Proofs.NamedTypes

/-!
Definitions that are alike for the names that anything leads to. Whatever is made of a node looks up none
but the names that the node refers to, and then those that their definitions refer to. Main statements:
`walk_alike`, `Alike.ofDefinition` and `Alike.mem_reach`.
-/

namespace WireContract

namespace Definitions

/-- Two sets of definitions are alike for some names, and what these refer to is among them. -/
structure Alike (among : String → Prop) (definitions others : Definitions) : Prop where
  root : others.root = definitions.root
  nodes : ∀ name, among name → others.nodes.get? name = definitions.nodes.get? name
  closed : ∀ name, among name → ∀ other, definitions.Refers name other → among other

variable {among : String → Prop} {definitions others : Definitions}

namespace Alike

variable (alike : Alike among definitions others)

include alike

theorem nameOf (reference : String) : others.nameOf reference = definitions.nameOf reference := by
  rw [Definitions.nameOf, alike.root, Definitions.nameOf]

theorem nameIn? (reference : String) :
    Definitions.nameIn? others.root reference = Definitions.nameIn? definitions.root reference := by
  rw [alike.root]

theorem refers_iff {name other : String} (isAmong : among name) :
    others.Refers name other ↔ definitions.Refers name other := by
  simp only [Refers, alike.nodes name isAmong, mem_references_iff_mentions, alike.nameIn?]

theorem symm : Alike among others definitions where
  root := alike.root.symm
  nodes name isAmong := (alike.nodes name isAmong).symm
  closed name isAmong other refers := alike.closed name isAmong other ((alike.refers_iff isAmong).mp refers)

theorem resolves_iff {reference name : String} {target : SchemaNode}
    (inside : ∀ name ∈ (Definitions.nameIn? definitions.root reference).toList, among name) :
    others.Resolves reference name target ↔ definitions.Resolves reference name target := by
  rw [Resolves, Resolves, alike.nameIn?]
  refine and_congr_right fun isName => ?_
  rw [alike.nodes name (inside name (by simp [isName]))]

theorem target?_eq_some {reference name : String} {target : SchemaNode}
    {present : (name, target).1 ∈ definitions.nodes.keys}
    (inside : ∀ name ∈ (Definitions.nameIn? definitions.root reference).toList, among name)
    (resolved : definitions.target? reference = some ⟨(name, target), present⟩) :
    ∃ present, others.target? reference = some ⟨(name, target), present⟩ :=
  target?_of_resolves ((alike.resolves_iff inside).mpr (resolves_of_target? resolved))

theorem target?_eq_none {reference : String}
    (inside : ∀ name ∈ (Definitions.nameIn? definitions.root reference).toList, among name)
    (unresolved : definitions.target? reference = none) : others.target? reference = none := by
  cases found : others.target? reference with
  | none => rfl
  | some found' =>
    rw [← alike.root] at inside
    obtain ⟨_, resolved⟩ := alike.symm.target?_eq_some inside found
    rw [unresolved] at resolved
    cases resolved

theorem references_among {reference name : String} {target : SchemaNode}
    {present : (name, target).1 ∈ definitions.nodes.keys}
    (inside : ∀ name ∈ (Definitions.nameIn? definitions.root reference).toList, among name)
    (resolved : definitions.target? reference = some ⟨(name, target), present⟩) :
    ∀ other ∈ definitions.references target, among other := by
  obtain ⟨isName, known⟩ := resolves_of_target? resolved
  intro other isOther
  exact alike.closed name (inside name (by simp [isName])) other ⟨target, known, isOther⟩

end Alike

end Definitions

namespace Walk

open Definitions

variable {among : String → Prop} {definitions others : Definitions}

/-- A walk among alike definitions takes the same steps. -/
theorem walk_alike (alike : Alike among definitions others) :
    (∀ names path listed (current : SchemaNode), (∀ name ∈ definitions.references current, among name) →
      node others names path listed current = node definitions names path listed current) ∧
    (∀ names path required (members : List (String × SchemaNode)),
      (∀ name ∈ definitions.ofMembers members, among name) →
        properties others names path required members = properties definitions names path required members) ∧
    (∀ names path reference, (∀ name ∈ (Definitions.nameIn? definitions.root reference).toList, among name) →
      follow others names path reference = follow definitions names path reference) ∧
    (∀ names path (all : List SchemaNode), (∀ name ∈ definitions.ofNodes all, among name) →
      branches others names path all = branches definitions names path all) := by
  apply Walk.node.mutual_induct definitions
  case case1 =>
    intro names path listed current follows inBranches inProperties inside
    rw [node_eq, node_eq]
    unfold beyond
    cases refers : current.reference with
    | some reference =>
      have ofFollow := follows reference fun name isName => inside name (name_subset_references refers isName)
      exact congrArg _ ofFollow
    | none =>
      have ofBranches := inBranches fun name isName => inside name (ofNodes_subset_references current isName)
      have ofProperties := inProperties fun name isName =>
        inside name (ofMembers_subset_references current isName)
      dsimp only
      rw [ofBranches, ofProperties]
  case case2 =>
    intro names path required _
    rw [properties_nil, properties_nil]
  case case3 =>
    intro names path required key property rest listed child follows overlaid plain more inside
    rw [ofMembers_cons] at inside
    have ofProperty (name : String) (isName : name ∈ definitions.references property) : among name :=
      inside name (List.mem_append_left _ isName)
    rw [properties_cons, properties_cons, more fun name isName => inside name (List.mem_append_right _ isName)]
    congr 1
    refine property.entered (motive := fun slot referral? laid =>
      reach slot laid listed ++ beyond others names slot referral? laid =
        reach slot laid listed ++ beyond definitions names slot referral? laid) ?_ ?_ ?_
    · intro items reference found refers
      have ofItems : definitions.references items ⊆ definitions.references property :=
        references_items_subset (SchemaNode.element?_eq_some found).2
      have ofFollow := follows reference fun name isName =>
        ofProperty name (ofItems (name_subset_references refers isName))
      exact congrArg _ ofFollow
    · intro items found _
      rw [← node_eq, ← node_eq]
      have isItems := (SchemaNode.element?_eq_some found).2
      exact overlaid items isItems fun name isName => ofProperty name (references_overlay_subset isItems isName)
    · intro _
      rw [← node_eq, ← node_eq]
      exact plain ofProperty
  case case4 =>
    intro names path reference unresolved inside
    rw [follow_unresolved _ _ unresolved, follow_unresolved _ _ (alike.target?_eq_none inside unresolved)]
  case case5 =>
    intro names path reference name target present resolved isOpen inside
    obtain ⟨_, alsoResolved⟩ := alike.target?_eq_some inside resolved
    rw [follow_open _ _ resolved isOpen, follow_open _ _ alsoResolved isOpen]
  case case6 =>
    intro names path reference name target present resolved fresh ofTarget inside
    obtain ⟨_, alsoResolved⟩ := alike.target?_eq_some inside resolved
    rw [follow_fresh _ _ resolved fresh, follow_fresh _ _ alsoResolved fresh,
      ofTarget (alike.references_among inside resolved)]
  case case7 =>
    intro names path _
    rw [branches_nil, branches_nil]
  case case8 =>
    intro names path branch rest follows ofBranch more inside
    rw [ofNodes_cons] at inside
    have ofRest := more fun name isName => inside name (List.mem_append_right _ isName)
    have own (name : String) (isName : name ∈ definitions.references branch) : among name :=
      inside name (List.mem_append_left _ isName)
    cases refers : branch.reference with
    | some reference =>
      have ofFollow := follows reference fun name isName => own name (name_subset_references refers isName)
      rw [branches_referral _ _ refers, branches_referral _ _ refers, ofFollow, ofRest]
    | none => rw [branches_inline _ _ refers, branches_inline _ _ refers, ofBranch own, ofRest]

theorem body_alike (alike : Alike among definitions others) {schema : SchemaNode}
    (inside : ∀ name ∈ definitions.references schema, among name) :
    body others schema = body definitions schema := by
  have atRoot := (walk_alike alike).1 [] "" false schema inside
  rw [node_eq, node_eq] at atRoot
  rw [body_eq, body_eq, List.append_cancel_left atRoot]

end Walk

namespace Definitions.Alike

variable {among : String → Prop} {definitions others : Definitions} (alike : Alike among definitions others)

include alike

theorem reached {parameter : SchemaNode}
    (inside : ∀ schema ∈ parameter.schema, ∀ name ∈ definitions.references schema, among name) :
    parameter.reached others = parameter.reached definitions := by
  have sameSteps (location : Location) (path : String) :
      parameter.steps others location path = parameter.steps definitions location path := by
    rw [SchemaNode.steps_eq, SchemaNode.steps_eq]
    cases isSchema : parameter.schema with
    | none => rfl
    | some schema =>
      rw [SchemaNode.steps.bodySteps, SchemaNode.steps.bodySteps, Walk.body_alike alike (inside schema isSchema)]
  unfold SchemaNode.reached
  cases parameter.place? with
  | none => rfl
  | some place =>
    dsimp only
    rw [sameSteps]

theorem operation (fold : Folding) {item : PathItem} {operation : Operation}
    (inside : ∀ parameter ∈ Compiler.parametersOf item operation, ∀ schema ∈ parameter.schema,
      ∀ name ∈ definitions.references schema, among name) :
    Compiler.operation ⟨others, fold⟩ item operation = Compiler.operation ⟨definitions, fold⟩ item operation := by
  refine List.foldl_ext _ _ _ fun model parameter isParameter => ?_
  rw [Compiler.parameter, Compiler.parameter, alike.reached (inside parameter isParameter)]

theorem typeOf (node : SchemaNode) : others.typeOf node = definitions.typeOf node := by
  induction node using Definitions.typeOf.induct definitions with
  | case1 node reference refers =>
    rw [Definitions.typeOf, Definitions.typeOf, refers]
    dsimp only
    rw [alike.nameOf]
  | case2 node inline isArray items isItems _ _ _ ih =>
    rw [Definitions.typeOf, Definitions.typeOf, inline, isArray]
    simp only
    split
    · next other found =>
      obtain rfl := Option.some.inj (isItems.symm.trans found)
      rw [ih]
    · rfl
  | case3 node inline isArray noItems =>
    rw [Definitions.typeOf, Definitions.typeOf, inline, isArray]
    simp only
    split
    · next other found =>
      rw [noItems] at found
      cases found
    · rfl
  | case4 node inline isInteger =>
    rw [Definitions.typeOf, Definitions.typeOf, inline, isInteger]
    rfl
  | case5 node inline other noArray noInteger isOther =>
    rw [Definitions.typeOf, Definitions.typeOf, inline, isOther]
    simp
  | case6 node inline noType => rw [Definitions.typeOf, Definitions.typeOf, inline, noType]

theorem describe (name : String) (node : SchemaNode) : others.describe name node = definitions.describe name node := by
  rw [Definitions.describe, Definitions.describe, alike.typeOf]

theorem parts (seen : List String) {node : SchemaNode} (inside : ∀ name ∈ definitions.references node, among name) :
    Model.parts others seen node = Model.parts definitions seen node := by
  induction seen, node using Model.parts.induct definitions with
  | case1 seen node ofTarget ofBranch =>
    rw [Model.parts_eq, Model.parts_eq]
    congr 1
    refine List.flatMap_congr fun branch isBranch => ?_
    have own (name : String) (isName : name ∈ definitions.references branch) : among name :=
      inside name (ofNodes_subset_references node (mem_ofNodes_iff.mpr ⟨branch, isBranch, isName⟩))
    cases refers : branch.reference with
    | none =>
      rw [Model.partsOf_inline _ _ refers, Model.partsOf_inline _ _ refers]
      exact ofBranch branch isBranch own
    | some reference =>
      have named (name : String) (isName : name ∈ (Definitions.nameIn? definitions.root reference).toList) :
          among name := own name (name_subset_references refers isName)
      cases resolved : definitions.target? reference with
      | none =>
        rw [Model.partsOf_unresolved refers resolved,
          Model.partsOf_unresolved refers (alike.target?_eq_none named resolved)]
      | some found =>
        obtain ⟨⟨name, target⟩, present⟩ := found
        obtain ⟨_, alsoResolved⟩ := alike.target?_eq_some named resolved
        by_cases isOpen : seen.contains name = true
        · rw [Model.partsOf_open refers resolved isOpen, Model.partsOf_open refers alsoResolved isOpen]
        · rw [Model.partsOf_fresh refers resolved isOpen, Model.partsOf_fresh refers alsoResolved isOpen]
          exact ofTarget name target present isOpen (alike.references_among named resolved)

theorem ofDefinition (fold : Folding) (name : String) {node : SchemaNode}
    (inside : ∀ name ∈ definitions.references node, among name) :
    Model.ofDefinition ⟨others, fold⟩ name node = Model.ofDefinition ⟨definitions, fold⟩ name node := by
  have fields (required : List String) (key : String) (property : SchemaNode) :
      Model.field ⟨others, fold⟩ required key property = Model.field ⟨definitions, fold⟩ required key property := by
    rw [Model.field, Model.field, alike.describe]
    rfl
  unfold Model.ofDefinition
  simp only [alike.parts [name] inside, alike.typeOf, fields]

/-- From some of the names the same definitions are reached, all of them among the names. -/
theorem mem_reach {seeds : List String} (inside : ∀ seed ∈ seeds, among seed) {name : String}
    (isReached : name ∈ definitions.reach [] seeds) : among name ∧ name ∈ others.reach [] seeds := by
  rw [mem_reach_iff] at isReached ⊢
  obtain ⟨defined, seed, isSeed, leads⟩ := isReached
  have along : among name ∧ Relation.ReflTransGen others.Refers seed name := by
    induction leads with
    | refl => exact ⟨inside seed isSeed, .refl⟩
    | tail _ refers ih =>
      obtain ⟨isAmong, before⟩ := ih (defined.of_leads (.single refers))
      exact ⟨alike.closed _ isAmong _ refers, before.tail ((alike.refers_iff isAmong).mpr refers)⟩
  rw [Defines, alike.nodes name along.1]
  exact ⟨along.1, defined, seed, isSeed, along.2⟩

end Definitions.Alike
end WireContract

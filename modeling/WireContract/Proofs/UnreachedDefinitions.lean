import WireContract.Contract.Hash
import WireContract.Proofs.AlikeDefinitions

namespace WireContract

namespace Document

/-- A selected operation of a document leads to a name: by a reference that stands anywhere in one of its
parameters or responses, or in a definition that it leads to. A reference that is not below the root names
itself. -/
inductive LeadsTo (contractor : Contractor) (document : Document) : String → Prop
  | operation {entry : Entry} {node : SchemaNode} {reference : String} (isEntry : entry ∈ document.entries)
      (selected : contractor.filter.selects entry.url entry.method.name = true)
      (isNode : node ∈ entry.nodes) (mentions : node.Mentions reference) :
      LeadsTo contractor document (Definitions.nameOf ⟨document.definitions, contractor.root⟩ reference)
  | definition {name : String} {node : SchemaNode} {reference : String}
      (leads : LeadsTo contractor document name) (known : document.definitions.get? name = some node)
      (mentions : node.Mentions reference) :
      LeadsTo contractor document (Definitions.nameOf ⟨document.definitions, contractor.root⟩ reference)

end Document

namespace SchemaNode

theorem mentions_iff {node : SchemaNode} {reference : String} :
    node.Mentions reference ↔
      node.reference = some reference ∨ ∃ part, node.Holds part ∧ part.Mentions reference := by
  constructor
  · rintro ⟨part, within, refers⟩
    rcases within.cases_head with rfl | ⟨next, holds, deeper⟩
    · exact .inl refers
    · exact .inr ⟨next, holds, part, deeper, refers⟩
  · rintro (refers | ⟨next, holds, part, deeper, refers⟩)
    · exact ⟨node, .refl, refers⟩
    · exact ⟨part, .head holds deeper, refers⟩

theorem mentions_iff_of_leaf {node : SchemaNode} {reference : String} (noItems : node.items = none)
    (noBranches : node.branches = []) (noMembers : node.members = []) :
    node.Mentions reference ↔ node.reference = some reference := by
  refine mentions_iff.trans (or_iff_left ?_)
  rintro ⟨part, holds, _⟩
  cases holds with
  | items isItems =>
    rw [noItems] at isItems
    cases isItems
  | branch isBranch =>
    rw [noBranches] at isBranch
    cases isBranch
  | property isMember =>
    rw [noMembers] at isMember
    cases isMember

theorem NamesType.mentions {definitions : Definitions} {node : SchemaNode} {name : String}
    (names : node.NamesType definitions name) :
    ∃ reference, node.Mentions reference ∧ definitions.nameOf reference = name := by
  induction names with
  | reference refers => exact ⟨_, ⟨_, .refl, refers⟩, rfl⟩
  | items _ _ isItems _ ih =>
    obtain ⟨reference, ⟨part, within, refers⟩, same⟩ := ih
    exact ⟨reference, ⟨part, .head (.items isItems) within, refers⟩, same⟩

end SchemaNode

namespace Definitions.Alike

variable {among : String → Prop} {definitions others : Definitions} (alike : Alike among definitions others)

include alike

theorem ofEntry (fold : Folding) {entry : Document.Entry}
    (inside : ∀ node ∈ entry.nodes, ∀ name ∈ definitions.references node, among name) :
    Endpoint.ofEntry ⟨others, fold⟩ entry = Endpoint.ofEntry ⟨definitions, fold⟩ entry := by
  have sameCheck : Compiler.operation ⟨others, fold⟩ entry.item entry.operation =
      Compiler.operation ⟨definitions, fold⟩ entry.item entry.operation := by
    refine alike.operation fold fun parameter isParameter schema isSchema => inside schema ?_
    refine List.mem_flatMap.mpr ⟨parameter, List.mem_append_left _ isParameter, ?_⟩
    exact .tail _ (Option.mem_toList.mpr isSchema)
  have sameFields (check : CheckModel) :
      Field.ofParameter? others check = Field.ofParameter? definitions check := by
    funext parameter
    simp only [Field.ofParameter?, alike.describe]
  have sameResponses (responses : Dict SchemaNode) :
      Field.ofResponses others responses = Field.ofResponses definitions responses := by
    simp only [Field.ofResponses, Field.ofResponse, alike.describe]
  simp only [Endpoint.ofEntry, sameCheck, sameFields, sameResponses]

theorem filter_reach {seeds : List String} (inside : ∀ seed ∈ seeds, among seed) :
    (others.nodes.filter fun name _ => (others.reach [] seeds).contains name) =
      definitions.nodes.filter fun name _ => (definitions.reach [] seeds).contains name := by
  have sameReached (name : String) :
      (others.reach [] seeds).contains name = (definitions.reach [] seeds).contains name := by
    rw [Bool.eq_iff_iff, List.contains_iff_mem, List.contains_iff_mem]
    exact ⟨fun isReached => (alike.symm.mem_reach inside isReached).2,
      fun isReached => (alike.mem_reach inside isReached).2⟩
  ext name : 1
  rw [Dict.get?_filter, Dict.get?_filter, sameReached]
  cases isReached : (definitions.reach [] seeds).contains name with
  | false => simp
  | true => rw [alike.nodes name (alike.mem_reach inside (List.contains_iff_mem.mp isReached)).1]

theorem modelsOf (fold : Folding) {operations : List Endpoint}
    (inside : ∀ seed ∈ operations.flatMap Endpoint.referencedTypes, among seed) :
    Contract.modelsOf ⟨others, fold⟩ operations = Contract.modelsOf ⟨definitions, fold⟩ operations := by
  have sameEntries := congrArg Dict.entries (alike.filter_reach inside)
  refine (congrArg (List.map _) sameEntries).trans (List.map_congr_left ?_)
  rintro ⟨name, node⟩ isEntry
  obtain ⟨isKnown, isReached⟩ := List.mem_filter.mp isEntry
  have isAmong := (alike.mem_reach inside (List.contains_iff_mem.mp isReached)).1
  refine alike.ofDefinition fold name fun other isOther => ?_
  exact alike.closed name isAmong other ⟨node, Dict.get?_eq_some_iff.mpr isKnown, isOther⟩

end Definitions.Alike

namespace Document.LeadsTo

variable {contractor : Contractor} {document : Document}

theorem closed {name other : String} (leads : document.LeadsTo contractor name)
    (refers : Definitions.Refers ⟨document.definitions, contractor.root⟩ name other) :
    document.LeadsTo contractor other := by
  obtain ⟨node, known, isOther⟩ := refers
  obtain ⟨reference, mentions, isName⟩ := Definitions.mem_references_iff_mentions.mp isOther
  rw [← Definitions.nameOf_of_nameIn? isName]
  exact .definition leads known mentions

variable {entry : Entry} (isEntry : entry ∈ document.entries)
  (selected : contractor.filter.selects entry.url entry.method.name = true)

include isEntry selected

theorem of_references {node : SchemaNode} (isNode : node ∈ entry.nodes) {name : String}
    (isName : name ∈ Definitions.references ⟨document.definitions, contractor.root⟩ node) :
    document.LeadsTo contractor name := by
  obtain ⟨reference, mentions, isName⟩ := Definitions.mem_references_iff_mentions.mp isName
  rw [← Definitions.nameOf_of_nameIn? isName]
  exact .operation isEntry selected isNode mentions

theorem of_referencedTypes {fold : Folding} {name : String} (isType : name ∈
    (Endpoint.ofEntry ⟨⟨document.definitions, contractor.root⟩, fold⟩ entry).referencedTypes) :
    document.LeadsTo contractor name := by
  obtain ⟨node, describes, names⟩ := Endpoint.mem_referencedTypes_iff.mp isType
  obtain ⟨reference, mentions, rfl⟩ := names.mentions
  have described {own : SchemaNode} : own.described ∈ own :: own.schema.toList := by
    cases isSchema : own.schema with
    | none => simp [SchemaNode.described, isSchema]
    | some schema => simp [SchemaNode.described, isSchema]
  refine .operation isEntry selected (List.mem_flatMap.mpr ?_) mentions
  rcases describes with ⟨parameter, isParameter, _, rfl⟩ | ⟨response, isResponse, rfl⟩
  · exact ⟨parameter, List.mem_append_left _ isParameter, described⟩
  · exact ⟨response, List.mem_append_right _ isResponse, described⟩

end Document.LeadsTo

namespace Contract

/-- Documents with the same operations that agree on the definitions that the selected operations lead to, and
on which of these there are, have the same contract and the same hash. -/
theorem ofDocument_eq_of_agree (contractor : Contractor) {first second : Document}
    (sameBase : first.basePath = second.basePath) (samePaths : first.paths = second.paths)
    (agree : ∀ name, first.LeadsTo contractor name →
      first.definitions.get? name = second.definitions.get? name) :
    ofDocument contractor first = ofDocument contractor second ∧
      (ofDocument contractor first).contentHash = (ofDocument contractor second).contentHash := by
  let definitions : Definitions := ⟨first.definitions, contractor.root⟩
  let others : Definitions := ⟨second.definitions, contractor.root⟩
  have alike : Definitions.Alike (first.LeadsTo contractor) definitions others :=
    ⟨rfl, fun name leads => (agree name leads).symm, fun _ leads _ refers => leads.closed refers⟩
  have sameEntries : second.entries = first.entries := by
    have sameUrl : second.fullUrl = first.fullUrl := by
      funext path
      rw [Document.fullUrl, Document.fullUrl, sameBase]
    rw [Document.entries, Document.entries, samePaths, sameUrl]
  let selected := first.entries.filter fun entry => contractor.filter.selects entry.url entry.method.name
  let operations := selected.map (Endpoint.ofEntry ⟨definitions, contractor.fold⟩)
  have sameOperations : selected.map (Endpoint.ofEntry ⟨others, contractor.fold⟩) = operations := by
    refine List.map_congr_left fun entry isSelected => alike.ofEntry contractor.fold fun node isNode name => ?_
    obtain ⟨isEntry, isSelected⟩ := List.mem_filter.mp isSelected
    exact Document.LeadsTo.of_references isEntry isSelected isNode
  have inside : ∀ seed ∈ operations.flatMap Endpoint.referencedTypes, first.LeadsTo contractor seed := by
    intro seed isSeed
    obtain ⟨endpoint, isEndpoint, isType⟩ := List.mem_flatMap.mp isSeed
    obtain ⟨entry, isSelected, rfl⟩ := List.mem_map.mp isEndpoint
    obtain ⟨isEntry, isSelected⟩ := List.mem_filter.mp isSelected
    exact Document.LeadsTo.of_referencedTypes isEntry isSelected isType
  have sameModels : modelsOf ⟨others, contractor.fold⟩ operations =
      modelsOf ⟨definitions, contractor.fold⟩ operations := alike.modelsOf contractor.fold inside
  have same : ofDocument contractor first = ofDocument contractor second :=
    calc ofDocument contractor first
      _ = ⟨contractor.name, contractor.version, operations,
          modelsOf ⟨others, contractor.fold⟩ operations⟩ := by
        rw [sameModels]
        rfl
      _ = ofDocument contractor second := by
        rw [← sameOperations, ofDocument, sameEntries]
  exact ⟨same, congrArg contentHash same⟩

end Contract

namespace Kennel

def stocked : Document := { document with definitions := Dict.ofList [("Pet", pet), ("Toy", kennel)] }

theorem mentions_kennel {text : String} (mentions : kennel.Mentions text) : text = "#/definitions/Pet" := by
  rcases SchemaNode.mentions_iff.mp mentions with refers | ⟨part, holds, mentions⟩
  · cases refers
  · have isPart : part = reference := by
      cases holds with
      | items isItems => cases isItems
      | branch isBranch => cases isBranch
      | property isMember => exact (Prod.mk.inj (List.mem_singleton.mp isMember)).2
    rw [isPart] at mentions
    have refers := (SchemaNode.mentions_iff_of_leaf rfl rfl rfl).mp mentions
    exact (Option.some.inj refers).symm

theorem not_mentions_pet (text : String) : ¬ pet.Mentions text := by
  intro mentions
  cases (SchemaNode.mentions_iff_of_leaf rfl rfl rfl).mp mentions

theorem not_mentions_response (text : String) : ¬ response.Mentions text := by
  intro mentions
  cases (SchemaNode.mentions_iff_of_leaf rfl rfl rfl).mp mentions

theorem eq_pet_of_leadsTo {name : String} (leads : document.LeadsTo contractor name) : name = "Pet" := by
  induction leads with
  | @operation entry node text isEntry _ isNode mentions =>
    have entries : document.entries = [Kennel.entry] := rfl
    have nodes : Kennel.entry.nodes = [response, kennel] := rfl
    rw [entries] at isEntry
    rw [List.mem_singleton.mp isEntry, nodes] at isNode
    rcases List.mem_cons.mp isNode with rfl | isKennel
    · exact absurd mentions (not_mentions_response text)
    · rw [List.mem_singleton.mp isKennel] at mentions
      rw [mentions_kennel mentions]
      rfl
  | @definition name node text _ known mentions ih =>
    subst ih
    rw [← (Option.some.inj known : pet = node)] at mentions
    exact absurd mentions (not_mentions_pet text)

theorem contract_of_stocked :
    (∀ name, document.LeadsTo contractor name → document.definitions.get? name = stocked.definitions.get? name) ∧
      document.definitions.get? "Toy" ≠ stocked.definitions.get? "Toy" ∧
      Contract.ofDocument contractor document = Contract.ofDocument contractor stocked ∧
      (Contract.ofDocument contractor document).contentHash =
        (Contract.ofDocument contractor stocked).contentHash := by
  have agree : ∀ name, document.LeadsTo contractor name →
      document.definitions.get? name = stocked.definitions.get? name := by
    intro name leads
    rw [eq_pet_of_leadsTo leads]
    rfl
  have differ : document.definitions.get? "Toy" ≠ stocked.definitions.get? "Toy" := by
    intro same
    cases same
  exact ⟨agree, differ, Contract.ofDocument_eq_of_agree contractor rfl rfl agree⟩

end Kennel
end WireContract

import WireContract.Contract.OfDocument
import WireContract.Proofs.Collection

namespace WireContract

namespace Model

theorem name_ofDefinition (compiler : Compiler) (name : String) (node : SchemaNode) :
    (ofDefinition compiler name node).name = name := by
  unfold ofDefinition
  split <;> rfl

end Model

namespace Contract

variable {compiler : Compiler} {operations : List Endpoint}

theorem names_modelsOf (compiler : Compiler) (operations : List Endpoint) :
    (modelsOf compiler operations).map Model.name =
      compiler.definitions.nodes.keys.filter fun name =>
        (compiler.definitions.reach [] (operations.flatMap Endpoint.referencedTypes)).contains name := by
  have named : Model.name ∘ (fun entry => Model.ofDefinition compiler entry.1 entry.2) = Prod.fst :=
    funext fun entry => Model.name_ofDefinition compiler entry.1 entry.2
  rw [modelsOf, List.map_map, Dict.keys, List.filter_map]
  exact congrArg (List.map · _) named

theorem increasing_modelsOf (compiler : Compiler) (operations : List Endpoint) :
    ((modelsOf compiler operations).map Model.name).Pairwise (· < ·) := by
  rw [names_modelsOf]
  exact (List.pairwise_map.mpr compiler.definitions.nodes.increasing).filter _

theorem mem_names_modelsOf_iff (compiler : Compiler) (operations : List Endpoint) {name : String} :
    name ∈ (modelsOf compiler operations).map Model.name ↔
      compiler.definitions.Defines name ∧
        ∃ seed ∈ operations.flatMap Endpoint.referencedTypes,
          Relation.ReflTransGen compiler.definitions.Refers seed name := by
  rw [names_modelsOf, List.mem_filter, List.contains_iff_mem, Definitions.mem_reach_iff,
    and_iff_right_iff_imp]
  rintro ⟨⟨node, known⟩, _⟩
  exact List.mem_map.mpr ⟨(name, node), Dict.get?_eq_some_iff.mp known, rfl⟩

theorem mem_names_ofDocument_iff {contractor : Contractor} {document : Document} {name : String} :
    name ∈ (ofDocument contractor document).models.map Model.name ↔
      Definitions.Defines ⟨document.definitions, contractor.root⟩ name ∧
        ∃ seed ∈ (ofDocument contractor document).operations.flatMap Endpoint.referencedTypes,
          Relation.ReflTransGen (Definitions.Refers ⟨document.definitions, contractor.root⟩) seed name :=
  mem_names_modelsOf_iff ⟨⟨document.definitions, contractor.root⟩, contractor.fold⟩ _

theorem mem_names_of_leads {contractor : Contractor} {document : Document} {start name : String}
    (isModel : start ∈ (ofDocument contractor document).models.map Model.name)
    (leads : Relation.ReflTransGen (Definitions.Refers ⟨document.definitions, contractor.root⟩) start name)
    (defined : Definitions.Defines ⟨document.definitions, contractor.root⟩ name) :
    name ∈ (ofDocument contractor document).models.map Model.name := by
  obtain ⟨_, seed, isSeed, before⟩ := mem_names_ofDocument_iff.mp isModel
  exact mem_names_ofDocument_iff.mpr ⟨defined, seed, isSeed, before.trans leads⟩

/-- A set of definitions has all that the fields of operations refer to, and all that its own definitions
mention. -/
structure Complete (definitions : Definitions) (operations : List Endpoint) (among : String → Prop) :
    Prop where
  fields : ∀ operation ∈ operations, ∀ field ∈ operation.request ++ operation.response,
    ∀ name, field.referencedType = some name → definitions.Defines name → among name
  mentions : ∀ name, among name → ∀ node, definitions.nodes.get? name = some node →
    ∀ reference, node.Mentions reference →
      ∀ other, Definitions.nameIn? definitions.root reference = some other →
        definitions.Defines other → among other

theorem complete_models (compiler : Compiler) (operations : List Endpoint) :
    Complete compiler.definitions operations (· ∈ (modelsOf compiler operations).map Model.name) where
  fields operation isOperation field isField name refers defined := by
    have isSeed : name ∈ operations.flatMap Endpoint.referencedTypes :=
      List.mem_flatMap.mpr ⟨operation, isOperation, List.mem_filterMap.mpr ⟨field, isField, refers⟩⟩
    exact (mem_names_modelsOf_iff _ _).mpr ⟨defined, name, isSeed, .refl⟩
  mentions name isModel node known reference mentions other isName defined := by
    obtain ⟨_, seed, isSeed, leads⟩ := (mem_names_modelsOf_iff _ _).mp isModel
    have refers : compiler.definitions.Refers name other :=
      ⟨node, known, Definitions.mem_references_iff_mentions.mpr ⟨reference, mentions, isName⟩⟩
    exact (mem_names_modelsOf_iff _ _).mpr ⟨defined, seed, isSeed, leads.tail refers⟩

theorem Complete.of_leads {definitions : Definitions} {among : String → Prop}
    (complete : Complete definitions operations among) {seed name : String}
    (isSeed : seed ∈ operations.flatMap Endpoint.referencedTypes)
    (leads : Relation.ReflTransGen definitions.Refers seed name) (defined : definitions.Defines name) :
    among name := by
  induction leads with
  | refl =>
    obtain ⟨operation, isOperation, isType⟩ := List.mem_flatMap.mp isSeed
    obtain ⟨field, isField, refers⟩ := List.mem_filterMap.mp isType
    exact complete.fields operation isOperation field isField seed refers defined
  | tail _ refers ih =>
    obtain ⟨node, known, isReference⟩ := refers
    obtain ⟨reference, mentions, isName⟩ := Definitions.mem_references_iff_mentions.mp isReference
    exact complete.mentions _ (ih ⟨node, known⟩) node known reference mentions _ isName defined

/-- The models of a contract are those of the least set of definitions that has all that the fields of its
operations refer to and all that its definitions mention, one of each in the order of their names; they
are found by looking up pending names in any order, and that always comes to an end. -/
theorem models_least_complete (contractor : Contractor) (document : Document) :
    let definitions : Definitions := ⟨document.definitions, contractor.root⟩
    let contract := ofDocument contractor document
    let names := contract.models.map Model.name
    names.Pairwise (· < ·) ∧ (∀ name ∈ names, definitions.Defines name) ∧
      Complete definitions contract.operations (· ∈ names) ∧
      (∀ among, Complete definitions contract.operations among → ∀ name ∈ names, among name) ∧
      (WellFounded fun later earlier => definitions.Takes earlier later) ∧
      (∃ found, Relation.ReflTransGen definitions.Takes
        ⟨[], contract.operations.flatMap Endpoint.referencedTypes⟩ ⟨found, 0⟩) ∧
      ∀ found, Relation.ReflTransGen definitions.Takes
        ⟨[], contract.operations.flatMap Endpoint.referencedTypes⟩ ⟨found, 0⟩ →
        ∀ name, name ∈ found ↔ name ∈ names := by
  intro definitions contract names
  have complete : Complete definitions contract.operations (· ∈ names) :=
    complete_models ⟨definitions, contractor.fold⟩ contract.operations
  refine ⟨increasing_modelsOf _ _, ?_, complete, ?_, definitions.takes_wellFounded,
    ⟨_, definitions.runs_reach [] _⟩, ?_⟩
  · intro name isModel
    exact (mem_names_ofDocument_iff.mp isModel).1
  · intro among complete name isModel
    obtain ⟨defined, seed, isSeed, leads⟩ := mem_names_ofDocument_iff.mp isModel
    exact complete.of_leads isSeed leads defined
  · intro found runs name
    exact (Definitions.mem_found_iff runs).trans mem_names_ofDocument_iff.symm

end Contract
end WireContract

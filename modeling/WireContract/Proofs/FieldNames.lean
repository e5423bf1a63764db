import WireContract.Proofs.ComposedFields
import WireContract.Proofs.NamedTypes
import WireContract.Proofs.Respelling

namespace WireContract

namespace Field

theorem name_inCamelCase (field : Field) : field.inCamelCase.name = Text.propertyName field.name := by
  unfold inCamelCase Text.propertyName
  by_cases isEmpty : Text.lowerCamel field.name = ""
  · simp [isEmpty]
  · by_cases same : Text.lowerCamel field.name = field.name
    · simp [same]
    · simp [isEmpty, same]

end Field

namespace Model

variable {node : SchemaNode}

theorem name_field (compiler : Compiler) (required : List String) (key : String) (property : SchemaNode) :
    (field compiler required key property).name = Text.propertyName key :=
  Field.name_inCamelCase _

theorem names_ofDefinition (compiler : Compiler) (name : String) (node : SchemaNode) :
    (ofDefinition compiler name node).fields.map Field.name =
      ((ofDefinition compiler name node).fields.map Field.wireName).map Text.propertyName := by
  rw [List.map_map]
  refine List.map_congr_left fun field isField => ?_
  unfold ofDefinition at isField
  split at isField
  · obtain ⟨⟨key, property⟩, _, rfl⟩ := List.mem_map.mp isField
    rw [Function.comp_apply, name_field, (field_eq compiler _ key property).1]
  · cases isField

theorem nodup_wireNames (compiler : Compiler) (name : String) (composite : node.isComposite = true) :
    ((ofDefinition compiler name node).fields.map Field.wireName).Nodup := by
  rw [wireNames_ofDefinition compiler name composite]
  exact Dict.nodup_keys (Dict.increasing _)

theorem nodup_names_iff (compiler : Compiler) (name : String) (composite : node.isComposite = true) :
    let fields := (ofDefinition compiler name node).fields
    (fields.map Field.name).Nodup ↔
      (fields.map Field.wireName).Pairwise fun key other => ¬ Text.SpelledAlike key other := by
  intro fields
  have keys : (fields.map Field.wireName).Nodup := nodup_wireNames compiler name composite
  rw [names_ofDefinition, List.Nodup, List.pairwise_map]
  constructor
  · intro distinct
    exact distinct.imp fun differ alike => differ (Text.propertyName_eq_iff.mpr (.inr alike))
  · intro unlike
    refine (List.pairwise_and_iff.mpr ⟨keys, unlike⟩).imp fun ⟨differ, unlike⟩ same => ?_
    exact (Text.propertyName_eq_iff.mp same).elim differ unlike

end Model

namespace Contract

variable {contractor : Contractor} {document : Document}

theorem exists_of_mem_models {model : Model} (isModel : model ∈ (ofDocument contractor document).models) :
    ∃ node, document.definitions.get? model.name = some node ∧
      model = Model.ofDefinition ⟨⟨document.definitions, contractor.root⟩, contractor.fold⟩ model.name
        node := by
  obtain ⟨⟨name, node⟩, isReached, rfl⟩ := List.mem_map.mp isModel
  rw [Model.name_ofDefinition]
  exact ⟨node, Dict.get?_eq_some_iff.mpr (List.mem_filter.mp isReached).1, rfl⟩

/-- The fields of an object have distinct keys in data, which are those of all parts of its definition. Their
names in generated code are distinct exactly if no two of the keys are spellings of each other. -/
theorem names_distinct_iff (contractor : Contractor) (document : Document) {name : String}
    {fields : List Field} (isModel : .object name fields ∈ (ofDocument contractor document).models) :
    let definitions : Definitions := ⟨document.definitions, contractor.root⟩
    ∃ node, definitions.nodes.get? name = some node ∧
      (∀ key, key ∈ fields.map Field.wireName ↔
        ∃ part ∈ Model.parts definitions [name] node, key ∈ part.members.map Prod.fst) ∧
      (fields.map Field.wireName).Nodup ∧
      ((fields.map Field.name).Nodup ↔
        (fields.map Field.wireName).Pairwise fun key other => ¬ Text.SpelledAlike key other) := by
  intro definitions
  obtain ⟨node, known, isObject⟩ := exists_of_mem_models isModel
  rw [Model.name] at known isObject
  have composite : node.isComposite = true := by
    by_cases composite : node.isComposite = true
    · exact composite
    · rw [Model.ofDefinition, if_neg composite] at isObject
      cases isObject
  have same : fields = (Model.ofDefinition ⟨definitions, contractor.fold⟩ name node).fields :=
    congrArg Model.fields isObject
  subst same
  exact ⟨node, known, fun key => Model.mem_wireNames_iff _ name composite,
    Model.nodup_wireNames _ name composite, Model.nodup_names_iff _ name composite⟩

end Contract

namespace Adoption

def response : SchemaNode :=
  { SchemaNode.empty with
    schema := some { SchemaNode.empty with reference := some "#/definitions/Pet" } }

def operation : Operation := ⟨some "adopt", [], none, [], Dict.ofList [("200", response)]⟩

def item : PathItem := ⟨fun method => if method = .get then some operation else none, []⟩

def entry : Document.Entry := ⟨"/pet", .get, item, operation⟩

def pet (first second : String) : SchemaNode :=
  { SchemaNode.empty with
    properties := some [(first, SchemaNode.empty), (second, SchemaNode.empty)] }

def document (first second : String) : Document :=
  ⟨none, Dict.ofList [("Pet", pet first second)], Dict.ofList [("/pet", item)]⟩

def contractor : Contractor := .default (Lifecycle.default : Lifecycle Unit).folding

def compiler (first second : String) : Compiler :=
  ⟨⟨(document first second).definitions, contractor.root⟩, contractor.fold⟩

def fields (first second : String) : List Field :=
  (Model.ofDefinition (compiler first second) "Pet" (pet first second)).fields

variable {first second : String}

theorem mem_models :
    .object "Pet" (fields first second) ∈
      (Contract.ofDocument contractor (document first second)).models := by
  have operations : (Contract.ofDocument contractor (document first second)).operations =
      [Endpoint.ofEntry (compiler first second) entry] := rfl
  have isName : (compiler first second).definitions.nameOf "#/definitions/Pet" = "Pet" :=
    Definitions.nameOf_of_nameIn? (by decide : Definitions.nameIn? Definitions.defaultRoot _ = _)
  have names : response.described.NamesType (compiler first second).definitions "Pet" :=
    isName ▸ .reference rfl
  have refers : "Pet" ∈ (Endpoint.ofEntry (compiler first second) entry).referencedTypes :=
    Endpoint.mem_referencedTypes_iff.mpr ⟨_, .inr ⟨response, List.mem_singleton.mpr rfl, rfl⟩, names⟩
  have isModel :
      "Pet" ∈ (Contract.ofDocument contractor (document first second)).models.map Model.name := by
    rw [Contract.mem_names_ofDocument_iff, operations, List.flatMap_singleton]
    exact ⟨⟨pet first second, rfl⟩, "Pet", refers, .refl⟩
  obtain ⟨model, isMember, named⟩ := List.mem_map.mp isModel
  obtain ⟨node, known, same⟩ := Contract.exists_of_mem_models isMember
  rw [named] at known same
  obtain rfl : pet first second = node := Option.some.inj known
  rw [same] at isMember
  exact isMember

theorem wireNames_fields (below : first < second) :
    (fields first second).map Field.wireName = [first, second] := by
  have parts : Model.parts (compiler first second).definitions ["Pet"] (pet first second) =
      [pet first second] := Model.parts_eq _ _ _
  have keys : [(first, SchemaNode.empty), (second, SchemaNode.empty)].Pairwise fun a b => a.1 < b.1 := by
    simpa using below
  have whole : Dict.ofList [(first, SchemaNode.empty), (second, SchemaNode.empty)] = ⟨_, keys⟩ :=
    Dict.ofList_of_perm (.refl _)
  rw [fields, Model.wireNames_ofDefinition _ _ rfl, parts, List.flatMap_singleton, SchemaNode.members,
    pet, Option.getD_some, whole]
  rfl

/-- The keys `petId` and `pet_id` come to one name. -/
theorem pet_names_collide :
    .object "Pet" (fields "petId" "pet_id") ∈
        (Contract.ofDocument contractor (document "petId" "pet_id")).models ∧
      (fields "petId" "pet_id").map Field.wireName = ["petId", "pet_id"] ∧
      ¬ ((fields "petId" "pet_id").map Field.name).Nodup := by
  refine ⟨mem_models, wireNames_fields (by decide), ?_⟩
  rw [fields, Model.names_ofDefinition]
  rw [← fields, wireNames_fields (by decide)]
  decide

theorem pet_names_distinct :
    .object "Pet" (fields "petId" "pet_name") ∈
        (Contract.ofDocument contractor (document "petId" "pet_name")).models ∧
      ((fields "petId" "pet_name").map Field.name).Nodup := by
  obtain ⟨_, _, _, _, distinct⟩ :=
    Contract.names_distinct_iff contractor (document "petId" "pet_name") mem_models
  have unlike : ¬ Text.SpelledAlike "petId" "pet_name" := fun alike =>
    absurd (Text.propertyName_eq_iff.mpr (.inr alike)) (by decide)
  refine ⟨mem_models, distinct.mpr ?_⟩
  rw [wireNames_fields (by decide)]
  simpa using unlike

end Adoption
end WireContract

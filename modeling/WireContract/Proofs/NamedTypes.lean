import WireContract.Proofs.BoundValues
import WireContract.Proofs.ReachedModels

/-!
Which definitions have models, told from the operations. A field refers to a definition if its type names
it, which a reference does and an array by its items, but no object that is written out; what stands within
such an object is checked and yet has no model. Main statement: `mem_models_iff_led_from_types`.
-/

namespace WireContract

namespace SchemaNode

def described (node : SchemaNode) : SchemaNode := node.schema.getD node

/-- The type of a node names a definition: by its reference, or as an array by the type of its items. -/
inductive NamesType (definitions : Definitions) : SchemaNode → String → Prop
  | reference {node : SchemaNode} {reference : String} (refers : node.reference = some reference) :
      NamesType definitions node (definitions.nameOf reference)
  | items {node items : SchemaNode} {name : String} (inline : node.reference = none)
      (isArray : node.type = some "array") (isItems : node.items = some items)
      (names : NamesType definitions items name) : NamesType definitions node name

end SchemaNode

namespace Definitions

variable {definitions : Definitions}

theorem nameOf_of_nameIn? {reference name : String}
    (isName : nameIn? definitions.root reference = some name) : definitions.nameOf reference = name := by
  rw [nameOf, isName, Option.getD_some]

theorem typeOf_of_reference {node : SchemaNode} {reference : String}
    (refers : node.reference = some reference) :
    (definitions.typeOf node).2 = some (definitions.nameOf reference) := by
  rw [typeOf, refers]

theorem typeOf_of_items {node items : SchemaNode} (inline : node.reference = none)
    (isArray : node.type = some "array") (isItems : node.items = some items) :
    (definitions.typeOf node).2 = (definitions.typeOf items).2 := by
  rw [typeOf, inline, isArray]
  simp only
  split
  · next other found =>
    obtain rfl := Option.some.inj (isItems.symm.trans found)
    rfl
  · next none => rw [isItems] at none; cases none

theorem namesType_of_typeOf (node : SchemaNode) {name : String}
    (names : (definitions.typeOf node).2 = some name) : node.NamesType definitions name := by
  induction node using typeOf.induct definitions generalizing name with
  | case1 node reference refers =>
    rw [typeOf_of_reference refers] at names
    cases names
    exact .reference refers
  | case2 node inline isArray items isItems _ _ _ ih =>
    rw [typeOf_of_items inline isArray isItems] at names
    exact .items inline isArray isItems (ih names)
  | case3 node inline isArray noItems =>
    rw [typeOf, inline, isArray] at names
    simp only at names
    split at names
    · next found => rw [noItems] at found; cases found
    · cases names
  | case4 node inline isInteger =>
    rw [typeOf, inline, isInteger] at names
    cases names
  | case5 node inline other noArray noInteger isOther =>
    rw [typeOf, inline, isOther] at names
    simp at names
  | case6 node inline noType =>
    rw [typeOf, inline, noType] at names
    cases names

theorem typeOf_eq_some_iff {node : SchemaNode} {name : String} :
    (definitions.typeOf node).2 = some name ↔ node.NamesType definitions name := by
  constructor
  · exact namesType_of_typeOf node
  · intro names
    induction names with
    | reference refers => exact typeOf_of_reference refers
    | items inline isArray isItems _ ih => rw [typeOf_of_items inline isArray isItems, ih]

end Definitions

namespace Document.Entry

def nodes (entry : Document.Entry) : List SchemaNode :=
  (Compiler.parametersOf entry.item entry.operation ++ entry.operation.responses.values).flatMap
    fun node => node :: node.schema.toList

def Uses (definitions : Definitions) (entry : Document.Entry) (name : String) : Prop :=
  definitions.Defines name ∧
    ∃ node ∈ entry.nodes, ∃ reference, node.Mentions reference ∧
      ∃ start, Definitions.nameIn? definitions.root reference = some start ∧
        Relation.ReflTransGen definitions.Refers start name

/-- A node that a field of the operation is described by. A parameter without a name has no field. -/
def Describes (entry : Document.Entry) (node : SchemaNode) : Prop :=
  (∃ parameter ∈ Compiler.parametersOf entry.item entry.operation,
    parameter.name.isSome = true ∧ parameter.described = node) ∨
    ∃ response ∈ entry.operation.responses.values, response.described = node

end Document.Entry

namespace Field

theorem referencedType_ofParameter? {definitions : Definitions} {check : CheckModel}
    {parameter : SchemaNode} {field : Field}
    (describes : ofParameter? definitions check parameter = some field) :
    field.referencedType = (definitions.typeOf parameter.described).2 := by
  obtain ⟨name, _, rfl⟩ := Option.map_eq_some_iff.mp describes
  rcases inCamelCase_eq _ with same | renamed
  · rw [same]
    rfl
  · rw [renamed]
    rfl

theorem mem_types_of_responses {definitions : Definitions} {responses : Dict SchemaNode} {name : String} :
    name ∈ (ofResponses definitions responses).filterMap referencedType ↔
      ∃ response ∈ responses.values, response.described.NamesType definitions name := by
  have headers : responseHeaders.referencedType = none := rfl
  have statuses : (if responses.isEmpty then [] else [status responses.keys]).filterMap referencedType =
      [] := by
    split <;> rfl
  have described (code : String) (response : SchemaNode) :
      (ofResponse definitions code response).referencedType =
        (definitions.typeOf response.described).2 := rfl
  rw [ofResponses, List.filterMap_cons_none headers, List.filterMap_append, statuses, List.append_nil,
    List.filterMap_map, List.mem_filterMap]
  simp only [Function.comp_apply, described, Definitions.typeOf_eq_some_iff, Dict.values, List.mem_map]
  constructor
  · rintro ⟨entry, isEntry, names⟩
    exact ⟨entry.2, ⟨entry, isEntry, rfl⟩, names⟩
  · rintro ⟨_, ⟨entry, isEntry, rfl⟩, names⟩
    exact ⟨entry, isEntry, names⟩

end Field

namespace Endpoint

theorem mem_referencedTypes_iff {compiler : Compiler} {entry : Document.Entry} {name : String} :
    name ∈ (ofEntry compiler entry).referencedTypes ↔
      ∃ node, entry.Describes node ∧ node.NamesType compiler.definitions name := by
  have split : (ofEntry compiler entry).referencedTypes =
      ((Compiler.parametersOf entry.item entry.operation).filterMap (Field.ofParameter?
        compiler.definitions (compiler.operation entry.item entry.operation))).filterMap
          Field.referencedType ++
        (Field.ofResponses compiler.definitions entry.operation.responses).filterMap
          Field.referencedType := List.filterMap_append
  rw [split, List.mem_append, Field.mem_types_of_responses]
  constructor
  · rintro (ofRequest | ⟨response, isResponse, names⟩)
    · obtain ⟨field, isField, refers⟩ := List.mem_filterMap.mp ofRequest
      obtain ⟨parameter, isParameter, describes⟩ := List.mem_filterMap.mp isField
      rw [Field.referencedType_ofParameter? describes, Definitions.typeOf_eq_some_iff] at refers
      have named : parameter.name.isSome = true :=
        Option.isSome_iff_exists.mpr ⟨_, (Field.ofParameter?_eq_some describes).1⟩
      exact ⟨_, .inl ⟨parameter, isParameter, named, rfl⟩, refers⟩
    · exact ⟨_, .inr ⟨response, isResponse, rfl⟩, names⟩
  · rintro ⟨_, ⟨parameter, isParameter, named, rfl⟩ | ⟨response, isResponse, rfl⟩, names⟩
    · left
      obtain ⟨own, isName⟩ := Option.isSome_iff_exists.mp named
      obtain ⟨field, describes⟩ : ∃ field, Field.ofParameter? compiler.definitions
          (compiler.operation entry.item entry.operation) parameter = some field := by
        rw [Field.ofParameter?, isName]
        exact ⟨_, rfl⟩
      refine List.mem_filterMap.mpr
        ⟨field, List.mem_filterMap.mpr ⟨parameter, isParameter, describes⟩, ?_⟩
      rw [Field.referencedType_ofParameter? describes, Definitions.typeOf_eq_some_iff]
      exact names
    · exact .inr ⟨response, isResponse, names⟩

end Endpoint

namespace Contract

variable {contractor : Contractor} {document : Document}

/-- A definition has a model exactly if the type of a node that describes a field of a selected operation
leads to it. So a selected operation has models of all the definitions that it uses exactly if each
definition that stands in one of its nodes, at whatever depth, has a model. -/
theorem mem_models_iff_led_from_types (contractor : Contractor) (document : Document) :
    let definitions : Definitions := ⟨document.definitions, contractor.root⟩
    let names := (ofDocument contractor document).models.map Model.name
    let Selected (entry : Document.Entry) : Prop :=
      entry ∈ document.entries ∧ contractor.filter.selects entry.url entry.method.name = true
    (∀ name, name ∈ names ↔
      definitions.Defines name ∧ ∃ entry, Selected entry ∧ ∃ node, entry.Describes node ∧
        ∃ type, node.NamesType definitions type ∧
          Relation.ReflTransGen definitions.Refers type name) ∧
    (∀ entry, Selected entry →
      ((∀ name, entry.Uses definitions name → name ∈ names) ↔
        ∀ node ∈ entry.nodes, ∀ reference, node.Mentions reference →
          ∀ name, Definitions.nameIn? definitions.root reference = some name →
            definitions.Defines name → name ∈ names)) := by
  intro definitions names Selected
  have isSeed (seed : String) :
      seed ∈ (ofDocument contractor document).operations.flatMap Endpoint.referencedTypes ↔
        ∃ entry, Selected entry ∧ ∃ node, entry.Describes node ∧ node.NamesType definitions seed := by
    simp only [ofDocument, List.flatMap_map, List.mem_flatMap, List.mem_filter,
      Endpoint.mem_referencedTypes_iff]
    rfl
  refine ⟨fun name => ?_, fun entry _ => ⟨?_, ?_⟩⟩
  · rw [mem_names_ofDocument_iff]
    refine and_congr_right fun _ => ⟨?_, ?_⟩
    · rintro ⟨seed, seeds, leads⟩
      obtain ⟨entry, selected, node, describes, namesType⟩ := (isSeed seed).mp seeds
      exact ⟨entry, selected, node, describes, seed, namesType, leads⟩
    · rintro ⟨entry, selected, node, describes, seed, namesType, leads⟩
      exact ⟨seed, (isSeed seed).mpr ⟨entry, selected, node, describes, namesType⟩, leads⟩
  · intro hasModels node isNode reference mentions name isName defined
    exact hasModels name ⟨defined, node, isNode, reference, mentions, name, isName, .refl⟩
  · rintro hasModels name ⟨defined, node, isNode, reference, mentions, start, isName, leads⟩
    have isModel : start ∈ names :=
      hasModels node isNode reference mentions start isName (defined.of_leads leads)
    exact mem_names_of_leads isModel leads defined

end Contract

namespace Kennel

def pet : SchemaNode := { SchemaNode.empty with type := some "string" }

def reference : SchemaNode := { SchemaNode.empty with reference := some "#/definitions/Pet" }

def kennel : SchemaNode :=
  { SchemaNode.empty with type := some "object", properties := some [("pet", reference)] }

def response : SchemaNode := { SchemaNode.empty with schema := some kennel }

def operation : Operation := ⟨some "kennel", [], none, [], Dict.ofList [("200", response)]⟩

def item : PathItem := ⟨fun method => if method = .get then some operation else none, []⟩

def document : Document := ⟨none, Dict.ofList [("Pet", pet)], Dict.ofList [("/kennel", item)]⟩

def contractor : Contractor := .default (Lifecycle.default : Lifecycle Unit).folding

def entry : Document.Entry := ⟨"/kennel", .get, item, operation⟩

theorem referencedTypes_entry (compiler : Compiler) :
    (Endpoint.ofEntry compiler entry).referencedTypes = [] := by
  refine List.eq_nil_iff_forall_not_mem.mpr fun name isType => ?_
  obtain ⟨node, describes, names⟩ := Endpoint.mem_referencedTypes_iff.mp isType
  have responses : entry.operation.responses.values = [response] := rfl
  have described : response.described = kennel := rfl
  rcases describes with ⟨parameter, isParameter, _⟩ | ⟨other, isResponse, rfl⟩
  · cases isParameter
  · rw [responses] at isResponse
    obtain rfl := List.mem_singleton.mp isResponse
    rw [described] at names
    cases names with
    | reference refers => cases refers
    | items _ isArray => exact absurd isArray (by decide)

/-- The operation uses the definition of a pet, which the contract has no model of. -/
theorem kennel_without_pet :
    entry ∈ document.entries ∧ contractor.filter.selects entry.url entry.method.name = true ∧
      entry.Uses ⟨document.definitions, contractor.root⟩ "Pet" ∧
      "Pet" ∉ (Contract.ofDocument contractor document).models.map Model.name := by
  have entries : document.entries = [entry] := rfl
  have nodes : entry.nodes = [response, kennel] := rfl
  have operations : (Contract.ofDocument contractor document).operations =
      [Endpoint.ofEntry ⟨⟨document.definitions, contractor.root⟩, contractor.fold⟩ entry] := rfl
  have mentions : kennel.Mentions "#/definitions/Pet" :=
    ⟨reference, .single (.property (List.mem_singleton.mpr rfl)), rfl⟩
  refine ⟨?_, rfl, ⟨⟨pet, rfl⟩, kennel, ?_, _, mentions, "Pet", rfl, .refl⟩, ?_⟩
  · rw [entries]
    exact List.mem_singleton.mpr rfl
  · rw [nodes]
    exact .tail _ (.head _)
  · rw [Contract.mem_names_ofDocument_iff, operations]
    rintro ⟨_, seed, isSeed, _⟩
    rw [List.flatMap_singleton, referencedTypes_entry] at isSeed
    cases isSeed

end Kennel
end WireContract

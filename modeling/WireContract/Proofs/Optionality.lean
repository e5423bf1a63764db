import WireContract.Proofs.BoundValues
import WireContract.Proofs.Composition

/-!
Optional fields of contracts beside the check models that requests are held to. A field of a model is
optional unless any part of its definition lists it, whereas a check model requires a property where a node
that the walk meets lists it beside it, or where a flag is met at it; a field of a request is optional unless
its own flag is on, whereas its rules are those of all parameters at its place. Main statement:
`optional_iff_not_required`.
-/

namespace WireContract

namespace Model

def property? (definitions : Definitions) (name : String) (node : SchemaNode) (key : String) :
    Option SchemaNode :=
  (Dict.ofList ((parts definitions [name] node).flatMap SchemaNode.members)).get? key

def Lists (definitions : Definitions) (name : String) (node : SchemaNode) (key : String) : Prop :=
  ∃ part ∈ parts definitions [name] node, key ∈ part.requiredFields

/-- One of the parts lists a key and has a property under it that is reached where `property` is. -/
def ListsBeside (definitions : Definitions) (name : String) (node : SchemaNode) (key : String)
    (property : SchemaNode) : Prop :=
  ∃ part ∈ parts definitions [name] node, key ∈ part.requiredFields ∧
    ∃ other, (key, other) ∈ part.members ∧ other.slot key = property.slot key

/-- The walk of a definition meets a node with a property under a key that is reached where `property` is,
and the node lists the key, or there is a flag at its property. -/
def Requires (definitions : Definitions) (name : String) (node : SchemaNode) (key : String)
    (property : SchemaNode) : Prop :=
  ∃ met, Walk.Meets definitions ⟨[name], node⟩ met ∧ met.node.reference = none ∧
    ∃ other, (key, other) ∈ met.node.members ∧ other.slot key = property.slot key ∧
      (key ∈ met.node.requiredFields ∨ Walk.HasFlag definitions ⟨met.names, other.standing⟩)

def Flags (definitions : Definitions) (name : String) (node : SchemaNode) (key : String) : Prop :=
  ∃ met, Walk.Meets definitions ⟨[name], node⟩ met ∧
    ∃ other, (key, other) ∈ met.node.members ∧ Walk.HasFlag definitions ⟨met.names, other.standing⟩

variable {definitions : Definitions} {name : String} {node : SchemaNode} {key : String}
  {property : SchemaNode}

theorem ListsBeside.lists (beside : ListsBeside definitions name node key property) :
    Lists definitions name node key := by
  obtain ⟨part, isPart, listed, _⟩ := beside
  exact ⟨part, isPart, listed⟩

/-- Of parts without references and a key without flags what counts are the lists. -/
theorem requires_iff_listsBeside
    (inline : ∀ part ∈ parts definitions [name] node, part.reference = none)
    (unflagged : ¬ Flags definitions name node key) :
    Requires definitions name node key property ↔ ListsBeside definitions name node key property := by
  constructor
  · rintro ⟨met, meets, _, other, isMember, same, listed | flag⟩
    · exact ⟨met.node, mem_parts_of_meets meets inline, listed, other, isMember, same⟩
    · exact absurd ⟨met, meets, other, isMember, flag⟩ unflagged
  · rintro ⟨part, isPart, listed, other, isMember, same⟩
    obtain ⟨within, meets⟩ := exists_meets_of_mem_parts isPart inline
    exact ⟨⟨within, part⟩, meets, inline part isPart, other, isMember, same, .inl listed⟩

theorem field_eq (compiler : Compiler) (required : List String) (key : String)
    (property : SchemaNode) :
    (field compiler required key property).wireName = key ∧
      (field compiler required key property).optional = !required.contains key := by
  unfold field
  simp only
  rcases Field.inCamelCase_eq _ with same | renamed
  · rw [same]
    exact ⟨rfl, rfl⟩
  · rw [renamed]
    exact ⟨rfl, rfl⟩

theorem property?_of_mem_fields {compiler : Compiler} {field : Field}
    (isField : field ∈ (ofDefinition compiler name node).fields) :
    ∃ property, property? compiler.definitions name node field.wireName = some property ∧
      (field.optional = false ↔ Lists compiler.definitions name node field.wireName) := by
  unfold ofDefinition at isField
  split at isField
  · obtain ⟨⟨key, property⟩, isEntry, rfl⟩ := List.mem_map.mp isField
    obtain ⟨wireName, optional⟩ := field_eq compiler
      ((parts compiler.definitions [name] node).flatMap SchemaNode.requiredFields) key property
    rw [wireName, optional]
    refine ⟨property, Dict.get?_eq_some_iff.mpr isEntry, ?_⟩
    simp only [Lists, Bool.not_eq_false', List.contains_iff_mem, List.mem_flatMap]
  · cases isField

end Model

section Body

variable {definitions : Definitions} {reference name : String} {node parameter schema : SchemaNode}
  (resolves : definitions.Resolves reference name node)
  (keys : ∀ met, Walk.Meets definitions ⟨[name], node⟩ met → met.node.Keyed)
  (place : parameter.place? = some (.body, BodyPath.wholeBody))
  (isSchema : parameter.schema = some schema) (refers : schema.reference = some reference)

include resolves keys place isSchema refers

theorem Compiler.parameter_requires_iff (header : String) {property : SchemaNode} {key : String}
    (isKey : BodyPath.IsKey key) :
    ((Compiler.parameter ⟨definitions, (Lifecycle.withHeader header).folding⟩ ∅ parameter).rulesAt .body
        (property.slot key)).isRequired = true ↔
      Model.Requires definitions name node key property := by
  have body : Walk.body definitions schema = Walk.follow definitions [] "" reference := by
    rw [Walk.body, refers]
  have below : property.slot key ≠ BodyPath.wholeBody := property.slot_ne_wholeBody isKey
  have undotted := property.slot_undotted isKey
  rw [Compiler.parameter_isRequired_iff, SchemaNode.requires_iff_of_place place]
  simp only [true_and, below, false_and, and_false, false_or, isSchema, Option.some.injEq,
    exists_eq_left', body, Walk.asks_follow_of_resolves resolves List.not_mem_nil]
  rw [Walk.asks_root_iff keys undotted]
  refine exists_congr fun met => and_congr_right fun meets => and_congr_right fun _ => ?_
  constructor
  · rintro ⟨⟨other, found⟩, isMember, same, required⟩
    -- the key can be read off where its property is reached
    have sameKey : key = other := by
      rw [← property.key_of_slot isKey, same, found.key_of_slot (keys met meets _ isMember)]
    subst sameKey
    exact ⟨found, isMember, same.symm, required⟩
  · rintro ⟨other, isMember, same, required⟩
    exact ⟨_, isMember, same.symm, required⟩

theorem Model.optional_of_fields (header : String) {field : Field}
    (isField : field ∈
      (Model.ofDefinition ⟨definitions, (Lifecycle.withHeader header).folding⟩ name node).fields)
    (isKey : BodyPath.IsKey field.wireName) :
    ∃ property, Model.property? definitions name node field.wireName = some property ∧
      (field.optional = false ↔ Model.Lists definitions name node field.wireName) ∧
      (((Compiler.parameter ⟨definitions, (Lifecycle.withHeader header).folding⟩ ∅ parameter).rulesAt
          .body (property.slot field.wireName)).isRequired = true ↔
        Model.Requires definitions name node field.wireName property) := by
  obtain ⟨property, isProperty, optional⟩ := Model.property?_of_mem_fields isField
  exact ⟨property, isProperty, optional, Compiler.parameter_requires_iff resolves keys place isSchema
    refers header isKey⟩

end Body

namespace Field

theorem optional_of_parameter {definitions : Definitions} {check : CheckModel} {parameter : SchemaNode}
    {field : Field} (describes : ofParameter? definitions check parameter = some field) :
    field.optional = false ↔ parameter.isRequired = true := by
  obtain ⟨name, _, rfl⟩ := Option.map_eq_some_iff.mp describes
  rcases inCamelCase_eq _ with same | renamed
  · rw [same, Bool.not_eq_false']
  · rw [renamed, Bool.not_eq_false']

end Field

namespace Endpoint

theorem optional_of_request (header : String) (definitions : Definitions) (entry : Document.Entry)
    {field : Field}
    (isField : field ∈
      (Endpoint.ofEntry ⟨definitions, (Lifecycle.withHeader header).folding⟩ entry).request)
    {location : Location} (isLocation : field.location = some location) (named : field.wireName ≠ "") :
    ∃ parameter ∈ Compiler.parametersOf entry.item entry.operation, ∃ path,
      parameter.place? = some (location, path) ∧
      (field.optional = false ↔ parameter.isRequired = true) ∧
      ((field.inlineRules.getD ∅).isRequired = true ↔
        ∃ other ∈ Compiler.parametersOf entry.item entry.operation,
          other.place? = some (location, path) ∧ other.RequiresItself definitions location) := by
  obtain ⟨parameter, isParameter, describes⟩ := List.mem_filterMap.mp isField
  obtain ⟨name, located, rules⟩ := Field.ofParameter?_eq_some describes
  have place := SchemaNode.place?_eq (located.trans isLocation) name
  refine ⟨parameter, isParameter, _, place, Field.optional_of_parameter describes, ?_⟩
  have path : (if location = .body then BodyPath.wholeBody
      else parameter.checkedName location field.wireName) ≠ "" := by
    unfold SchemaNode.checkedName
    split
    · decide
    · split
      · simp [BodyPath.items, BodyPath.arrayMark]
      · exact named
  rw [place, Option.bind_some] at rules
  rw [rules]
  refine (Compiler.operation_isRequired_iff header definitions location _ entry.item
    entry.operation).trans ?_
  exact exists_congr fun other => and_congr_right fun _ => SchemaNode.requires_iff place path

end Endpoint

namespace Contract

/-- What is optional in a contract beside what its check models require. A field of a model is optional
unless one of the parts of the definition lists it, and a body has to have it if a node that the walk meets
lists it beside the property, or has a flag at it; so where no part is a reference and there is no flag, both
say the same exactly if the key, if it is listed at all, is listed beside its property. A field of a request
is optional unless its parameter has its flag on, and its rules require it if any parameter at its place
requires it; so both say the same of a parameter that stands alone at its place, is not laid under items with
a word of their own on it, and has no schema that requires the entire body. -/
theorem optional_iff_not_required (header : String) (definitions : Definitions) :
    let compiler : Compiler := ⟨definitions, (Lifecycle.withHeader header).folding⟩
    (∀ reference name node parameter schema, definitions.Resolves reference name node →
      (∀ met, Walk.Meets definitions ⟨[name], node⟩ met → met.node.Keyed) →
      parameter.place? = some (.body, BodyPath.wholeBody) → parameter.schema = some schema →
      schema.reference = some reference →
      ∀ field ∈ (Model.ofDefinition compiler name node).fields, BodyPath.IsKey field.wireName →
        ∃ property, Model.property? definitions name node field.wireName = some property ∧
        let required := ((Compiler.parameter compiler ∅ parameter).rulesAt .body
          (property.slot field.wireName)).isRequired = true
        (field.optional = false ↔ Model.Lists definitions name node field.wireName) ∧
        (required ↔ Model.Requires definitions name node field.wireName property) ∧
        ((∀ part ∈ Model.parts definitions [name] node, part.reference = none) →
          ¬ Model.Flags definitions name node field.wireName →
          ((field.optional = false ↔ required) ↔
            (Model.Lists definitions name node field.wireName →
              Model.ListsBeside definitions name node field.wireName property)))) ∧
    (∀ (entry : Document.Entry), ∀ field ∈ (Endpoint.ofEntry compiler entry).request,
      ∀ location, field.location = some location → field.wireName ≠ "" →
      ∃ parameter ∈ Compiler.parametersOf entry.item entry.operation, ∃ path,
        parameter.place? = some (location, path) ∧
        let required := (field.inlineRules.getD ∅).isRequired = true
        (field.optional = false ↔ parameter.isRequired = true) ∧
        (required ↔ ∃ other ∈ Compiler.parametersOf entry.item entry.operation,
          other.place? = some (location, path) ∧ other.RequiresItself definitions location) ∧
        ((∀ other ∈ Compiler.parametersOf entry.item entry.operation,
            other.place? = some (location, path) → other = parameter) →
          (∀ items, parameter.items = some items → items.required = none) →
          (∀ schema, location = .body → parameter.schema = some schema →
            ¬ Walk.Asks (Walk.body definitions schema) BodyPath.wholeBody) →
          (field.optional = false ↔ required))) := by
  intro compiler
  refine ⟨?models, ?requests⟩
  case models =>
    intro reference name node parameter schema resolves keys place isSchema refers field isField isKey
    obtain ⟨property, isProperty, optional, required⟩ := Model.optional_of_fields resolves keys place
      isSchema refers header isField isKey
    refine ⟨property, isProperty, optional, required, ?_⟩
    intro inline unflagged
    rw [optional, required, Model.requires_iff_listsBeside inline unflagged]
    exact ⟨Iff.mp, fun beside => ⟨beside, Model.ListsBeside.lists⟩⟩
  case requests =>
    intro entry field isField location isLocation named
    obtain ⟨parameter, isParameter, path, place, optional, required⟩ :=
      Endpoint.optional_of_request header definitions entry isField isLocation named
    refine ⟨parameter, isParameter, path, place, optional, required, ?_⟩
    intro alone silent lenient
    rw [optional, required, ← SchemaNode.requiresItself_iff silent lenient]
    constructor
    · intro requires
      exact ⟨parameter, isParameter, place, requires⟩
    · rintro ⟨other, isOther, otherPlace, requires⟩
      rw [← alone other isOther otherPlace]
      exact requires

end Contract

namespace Notes

def text : SchemaNode := { SchemaNode.empty with type := some "string" }

def note : SchemaNode := { SchemaNode.empty with properties := some [("text", text)] }

def listing : SchemaNode := { note with required := some (.fields ["text"]) }

def composed : SchemaNode :=
  { SchemaNode.empty with allOf := some [note], required := some (.fields ["text"]) }

def definitions (node : SchemaNode) : Definitions :=
  ⟨Dict.ofList [("Note", node)], Definitions.defaultRoot⟩

def compiler (node : SchemaNode) : Compiler :=
  ⟨definitions node, (Lifecycle.withHeader Lifecycle.defaultTokenHeader).folding⟩

def reference : String := "#/definitions/Note"

theorem resolves (node : SchemaNode) : (definitions node).Resolves reference "Note" node := by
  have named : Definitions.nameIn? Definitions.defaultRoot reference = some "Note" := by decide
  exact ⟨named, rfl⟩

def schema : SchemaNode := { SchemaNode.empty with reference := some reference }

def parameter : SchemaNode := .inBody schema

def rules (node : SchemaNode) : RuleSet :=
  (Compiler.parameter (compiler node) ∅ parameter).rulesAt .body (text.slot "text")

structure Plain (node : SchemaNode) : Prop where
  inline : node.reference = none
  members : ∀ member ∈ node.members, member = ("text", text)

theorem parts_listing : Model.parts (definitions listing) ["Note"] listing = [listing] := by
  rw [Model.parts_eq]
  rfl

theorem parts_composed : Model.parts (definitions composed) ["Note"] composed = [note, composed] := by
  have ofNote : Model.partsOf (definitions composed) ["Note"] note = [note] := by
    rw [Model.partsOf_inline _ _ rfl, Model.parts_eq]
    rfl
  have branches : composed.branches = [note] := rfl
  rw [Model.parts_eq, branches, List.flatMap_singleton, ofNote]
  rfl

theorem plain_listing :
    ∀ part ∈ Model.parts (definitions listing) ["Note"] listing, Plain part := by
  rw [parts_listing]
  intro part isPart
  obtain rfl := List.mem_singleton.mp isPart
  exact ⟨rfl, fun _ => List.mem_singleton.mp⟩

theorem plain_composed :
    ∀ part ∈ Model.parts (definitions composed) ["Note"] composed, Plain part := by
  rw [parts_composed]
  intro part isPart
  rcases List.mem_cons.mp isPart with rfl | isPart
  · exact ⟨rfl, fun _ => List.mem_singleton.mp⟩
  · obtain rfl := List.mem_singleton.mp isPart
    exact ⟨rfl, fun _ isMember => by cases isMember⟩

theorem isKey_text : BodyPath.IsKey "text" := ⟨by decide, by decide, by decide, by decide⟩

section Met

variable {node : SchemaNode}
  (plain : ∀ part ∈ Model.parts (definitions node) ["Note"] node, Plain part)

include plain

theorem plain_of_meets {met : Walk.Point}
    (meets : Walk.Meets (definitions node) ⟨["Note"], node⟩ met) : Plain met.node :=
  plain _ (Model.mem_parts_of_meets meets fun part isPart => (plain part isPart).inline)

theorem keyed_of_meets {met : Walk.Point}
    (meets : Walk.Meets (definitions node) ⟨["Note"], node⟩ met) : met.node.Keyed := by
  intro member isMember
  rw [(plain_of_meets plain meets).members member isMember]
  exact isKey_text

theorem text_not_flagged : ¬ Model.Flags (definitions node) "Note" node "text" := by
  rintro ⟨met, meets, other, isMember, top, ofText, flag⟩
  obtain ⟨-, rfl⟩ := Prod.mk.inj ((plain_of_meets plain meets).members _ isMember)
  obtain rfl := ofText.eq_of_leaf rfl rfl
  cases flag

end Met

theorem exists_field {node : SchemaNode} (composite : node.isComposite = true)
    (members : (Model.parts (definitions node) ["Note"] node).flatMap SchemaNode.members =
      [("text", text)]) :
    ∃ field ∈ (Model.ofDefinition (compiler node) "Note" node).fields, field.wireName = "text" := by
  refine ⟨Model.field (compiler node)
    ((Model.parts (definitions node) ["Note"] node).flatMap SchemaNode.requiredFields) "text" text,
    ?_, (Model.field_eq ..).1⟩
  have entries : (Dict.ofList [("text", text)]).entries = [("text", text)] := rfl
  rw [Model.ofDefinition, if_pos composite, Model.fields]
  simp only [compiler, members, entries]
  exact List.mem_singleton.mpr rfl

theorem property?_text {node : SchemaNode}
    (members : (Model.parts (definitions node) ["Note"] node).flatMap SchemaNode.members =
      [("text", text)]) :
    Model.property? (definitions node) "Note" node "text" = some text := by
  rw [Model.property?, members]
  rfl

def page : SchemaNode :=
  { SchemaNode.empty with
    name := some "page"
    location := some "query"
    required := some (.flag true) }

def entry : Document.Entry := ⟨"/notes", .get, .empty, .ofParameter page⟩

/-- The text of a note that lists it is not optional and required by its rules, and so is the page. -/
theorem listed_text_required :
    (∃ field ∈ (Model.ofDefinition (compiler listing) "Note" listing).fields,
      field.wireName = "text" ∧ field.optional = false ∧ (rules listing).isRequired = true) ∧
    ∃ field ∈ (Endpoint.ofEntry (compiler listing) entry).request,
      field.wireName = "page" ∧ field.optional = false ∧
        (field.inlineRules.getD ∅).isRequired = true := by
  obtain ⟨models, requests⟩ :=
    Contract.optional_iff_not_required Lifecycle.defaultTokenHeader (definitions listing)
  constructor
  · have members : (Model.parts (definitions listing) ["Note"] listing).flatMap SchemaNode.members =
        [("text", text)] := by
      rw [parts_listing]
      rfl
    obtain ⟨field, isField, named⟩ := exists_field rfl members
    obtain ⟨property, isProperty, optional, _, agree⟩ := models reference "Note" listing parameter schema
      (resolves listing) (fun _ => keyed_of_meets plain_listing) rfl rfl rfl field isField
      (by rw [named]; exact isKey_text)
    rw [named] at isProperty optional agree
    obtain rfl := Option.some.inj ((property?_text members).symm.trans isProperty)
    have isPart : listing ∈ Model.parts (definitions listing) ["Note"] listing :=
      Model.self_mem_parts ..
    have listed : "text" ∈ listing.requiredFields := .head _
    have isListed := optional.mpr ⟨listing, isPart, listed⟩
    refine ⟨field, isField, named, isListed, (Iff.mpr (agree ?_ ?_) ?_).mp isListed⟩
    · exact fun part isPart => (plain_listing part isPart).inline
    · exact text_not_flagged plain_listing
    · exact fun _ => ⟨listing, isPart, listed, text, .head _, rfl⟩
  · obtain ⟨field, describes⟩ : ∃ field, Field.ofParameter? (definitions listing)
        (Endpoint.ofEntry (compiler listing) entry).check page = some field := ⟨_, rfl⟩
    have isField : field ∈ (Endpoint.ofEntry (compiler listing) entry).request :=
      List.mem_filterMap.mpr ⟨page, .head _, describes⟩
    obtain ⟨name, located, _⟩ := Field.ofParameter?_eq_some describes
    have named : field.wireName = "page" := (Option.some.inj name).symm
    obtain ⟨other, isOther, path, place, optional, _, agree⟩ :=
      requests entry field isField .query located.symm (by rw [named]; decide)
    obtain rfl := List.mem_singleton.mp isOther
    have required := optional.mpr rfl
    refine ⟨field, isField, named, required, (agree ?_ ?_ ?_).mp required⟩
    · intro other isOther _
      exact List.mem_singleton.mp isOther
    · intro _ isItems
      cases isItems
    · intro _ isBody
      cases isBody

/-- The text of a composed note is not optional, and yet no rule requires it. -/
theorem composed_text_not_required :
    ¬ ∀ field ∈ (Model.ofDefinition (compiler composed) "Note" composed).fields,
      ∀ property, Model.property? (definitions composed) "Note" composed field.wireName = some property →
        (field.optional = false ↔
          ((Compiler.parameter (compiler composed) ∅ parameter).rulesAt .body
            (property.slot field.wireName)).isRequired = true) := by
  intro agreement
  have members : (Model.parts (definitions composed) ["Note"] composed).flatMap SchemaNode.members =
      [("text", text)] := by
    rw [parts_composed]
    rfl
  obtain ⟨field, isField, named⟩ := exists_field rfl members
  have place : parameter.place? = some (.body, BodyPath.wholeBody) := rfl
  have isSchema : parameter.schema = some schema := rfl
  obtain ⟨property, isProperty, optional, required⟩ := Model.optional_of_fields (resolves composed)
    (fun _ => keyed_of_meets plain_composed) place isSchema rfl Lifecycle.defaultTokenHeader isField
    (by rw [named]; exact isKey_text)
  have agree := agreement field isField property isProperty
  rw [named] at optional required agree
  have isPart : composed ∈ Model.parts (definitions composed) ["Note"] composed :=
    Model.self_mem_parts ..
  have listed : Model.Lists (definitions composed) "Note" composed "text" := ⟨composed, isPart, .head _⟩
  -- the part with the list has no property, and the part with the property has no list
  have inline := fun part isPart => (plain_composed part isPart).inline
  have beside := (Model.requires_iff_listsBeside inline (text_not_flagged plain_composed)).mp
    (required.mp (agree.mp (optional.mpr listed)))
  obtain ⟨part, isPart, beside, other, isMember, _⟩ := beside
  rw [parts_composed] at isPart
  rcases List.mem_cons.mp isPart with rfl | isPart
  · cases beside
  · obtain rfl := List.mem_singleton.mp isPart
    cases isMember

end Notes

end WireContract

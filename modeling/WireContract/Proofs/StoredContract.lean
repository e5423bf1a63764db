import WireContract.Contract.Hash
import WireContract.Proofs.Records

namespace WireContract

open Source

namespace RuleSet

/-- Data can hold the rules: their bounds are finite, and the objects among the allowed values list their
members in key order. -/
structure Storable (rules : RuleSet) : Prop where
  maximum : ∀ x ∈ rules.maximum, x.isFinite = true
  minimum : ∀ x ∈ rules.minimum, x.isFinite = true
  oneOf : ∀ values ∈ rules.oneOf, ∀ value ∈ values, value.Ordered

theorem encode_eq (rules : RuleSet) :
    rules.encode = .ofMembers (Json.present
      [ ("required", rules.required.map .bool), ("maxLength", rules.maxLength.map Json.ofNat),
        ("minLength", rules.minLength.map Json.ofNat), ("x-maxLength", rules.xMaxLength.map Json.ofNat),
        ("x-minLength", rules.xMinLength.map Json.ofNat), ("maximum", rules.maximum.map Json.ofFloat),
        ("minimum", rules.minimum.map Json.ofFloat), ("pattern", rules.pattern.map .string),
        ("enum", rules.oneOf.map .array), ("maxItems", rules.maxItems.map Json.ofNat),
        ("minItems", rules.minItems.map Json.ofNat) ]) := by
  simp only [encode, members, Json.ofMembers, Json.present, List.map_cons, List.map_nil, Option.map_map]
  rfl

end RuleSet

namespace Source

theorem text?_string (s : String) : text? (ofJson (.string s)) = some s := rfl

theorem bool?_bool (b : Bool) : bool? (ofJson (.bool b)) = some b := rfl

theorem given?_texts (field : Option String) : given? text? ((field.map .string).map ofJson) = some field :=
  given?_write fun _ _ => ⟨rfl, rfl⟩

theorem given?_bools (field : Option Bool) : given? bool? ((field.map .bool).map ofJson) = some field :=
  given?_write fun _ _ => ⟨rfl, rfl⟩

theorem given?_naturals (field : Option Nat) :
    given? natural? ((field.map Json.ofNat).map ofJson) = some field := by
  refine given?_write fun n _ => ⟨rfl, ?_⟩
  simp [Json.ofNat, ofJson, natural?, scalarOfJson, Number.unsigned?]

theorem given?_floats {field : Option Float} (finite : ∀ x ∈ field, x.isFinite = true) :
    given? float? ((field.map Json.ofFloat).map ofJson) = some field := by
  refine given?_write fun x isThere => ?_
  rw [Json.ofFloat, if_pos (finite x isThere)]
  exact ⟨rfl, rfl⟩

theorem given?_values {field : Option (List Json)}
    (ordered : ∀ values ∈ field, ∀ value ∈ values, value.Ordered) :
    given? (list? untyped?) ((field.map .array).map ofJson) = some field := by
  refine given?_write fun values isThere => ⟨rfl, ?_⟩
  have read : list? untyped? (ofJson (.array (values.map id))) = some values :=
    list?_write fun value member => untyped?_ofJson value (ordered values isThere value member)
  rwa [List.map_id] at read

end Source

namespace RuleSet

theorem decode_encode {rules : RuleSet} (storable : rules.Storable) :
    decode (.ofJson rules.encode) = some rules := by
  unfold decode
  rw [encode_eq, fields?_ofMembers (by simp)]
  simp [-Option.map_map, Rule.all, Rule.name, Dict.find?, given?_texts, given?_bools, given?_naturals,
    given?_floats storable.maximum, given?_floats storable.minimum, given?_values storable.oneOf]

end RuleSet

namespace Location

theorem decode_encode (location : Location) : decode (.ofJson (.string location.name)) = some location :=
  ofName?_name location

end Location

namespace Field

structure Storable (field : Field) : Prop where
  inlineRules : ∀ rules ∈ field.inlineRules, rules.Storable
  oneOf : ∀ values ∈ field.oneOf, ∀ value ∈ values, value.Ordered

theorem encode_eq (field : Field) :
    field.encode = .ofMembers (Json.present
      [ ("name", some (.string field.name)), ("type", some (.string field.type)),
        ("optional", some (.bool field.optional)), ("description", field.description.map .string),
        ("referencedType", field.referencedType.map .string),
        ("inlineRules", field.inlineRules.map RuleSet.encode),
        ("location", field.location.map fun location => .string location.name),
        ("rename", field.rename.map .string), ("enum", field.oneOf.map .array) ]) := by
  simp only [encode, Json.present, List.map_cons, List.map_nil, Option.map_map]
  rfl

theorem decode_encode {field : Field} (storable : field.Storable) :
    decode (.ofJson field.encode) = some field := by
  have rules : given? RuleSet.decode ((field.inlineRules.map RuleSet.encode).map ofJson) =
      some field.inlineRules :=
    given?_write fun rules isThere => ⟨rfl, RuleSet.decode_encode (storable.inlineRules rules isThere)⟩
  have location : given? Location.decode
      ((field.location.map fun location => .string location.name).map ofJson) = some field.location :=
    given?_write fun location _ => ⟨rfl, location.decode_encode⟩
  unfold decode
  rw [encode_eq, wholeFields?_ofMembers (by simp)]
  simp [-Option.map_map, Dict.find?, required?, text?_string, bool?_bool, given?_texts, rules, location,
    given?_values storable.oneOf]

end Field

namespace Location

def byName : List Location := [.body, .definitions, .header, .path, .query]

theorem perm_byName : all.Perm byName := by decide

theorem mem_byName (location : Location) : location ∈ byName := perm_byName.subset location.mem_all

end Location

namespace CheckModel

def Storable (model : CheckModel) : Prop :=
  ∀ location path rules, model.rules? location path = some rules → rules.Storable

def sections (model : CheckModel) (order : List Location) : List (Location × Dict RuleSet) :=
  order.filterMap fun location => (model.section? location).map fun fields => (location, fields)

theorem foldl_sections (model start : CheckModel) (order : List Location) (location : Location) :
    ((model.sections order).foldl (fun model entry => model.withSection entry.1 entry.2) start).section?
        location =
      if location ∈ order then (model.section? location).or (start.section? location)
      else start.section? location := by
  induction order generalizing start with
  | nil => rfl
  | cons first rest ih =>
    unfold sections at ih ⊢
    cases found : model.section? first with
    | none =>
      rw [List.filterMap_cons_none (by rw [found]; rfl), ih]
      by_cases same : location = first
      · subst same
        simp [found]
      · simp [same]
    | some fields =>
      rw [List.filterMap_cons_some (by rw [found]; rfl), List.foldl_cons, ih, section?_withSection]
      by_cases same : location = first
      · subst same
        simp [found]
      · simp [same]

theorem ofSections_sections (model : CheckModel) : ofSections (model.sections Location.byName) = model := by
  refine ext_section? fun location => ?_
  have none : empty.section? location = none := by cases location <;> rfl
  rw [ofSections, foldl_sections, if_pos location.mem_byName, none, Option.or_none]

theorem encode_eq (model : CheckModel) :
    model.encode = .object ((model.sections Location.byName).map fun entry =>
      (entry.1.name, .object (entry.2.map RuleSet.encode).entries)) := by
  have written (order : List Location) :
      (model.sections order).map (fun entry =>
          (entry.1.name, Json.object (entry.2.map RuleSet.encode).entries)) =
        order.filterMap fun location => (model.section? location).map fun fields =>
          (location.name, .object (fields.map RuleSet.encode).entries) := by
    rw [sections, List.map_filterMap]
    simp only [Option.map_map]
    rfl
  have increasing : ((model.sections Location.byName).map fun entry =>
      (entry.1.name, Json.object (entry.2.map RuleSet.encode).entries)).Pairwise
        fun first second => first.1 < second.1 := by
    rw [written]
    have names : Location.byName.Pairwise fun first second => first.name < second.name := by decide
    refine names.filterMap _ ?_
    intro first second below one isFirst other isSecond
    obtain ⟨_, _, rfl⟩ := Option.map_eq_some_iff.mp isFirst
    obtain ⟨_, _, rfl⟩ := Option.map_eq_some_iff.mp isSecond
    exact below
  have perm := Location.perm_byName.filterMap fun location =>
    (model.section? location).map fun fields =>
      (location.name, Json.object (fields.map RuleSet.encode).entries)
  rw [← written Location.byName] at perm
  have listed : Dict.ofList (model.members fun fields => .object (fields.map RuleSet.encode).entries) =
      ⟨_, increasing⟩ := Dict.ofList_of_perm perm
  rw [encode, listed]

theorem decode_encode {model : CheckModel} (storable : model.Storable) :
    decode (.ofJson model.encode) = some model := by
  have fields : ∀ entry ∈ model.sections Location.byName,
      dict? RuleSet.decode (ofJson (.object (entry.2.map RuleSet.encode).entries)) = some entry.2 := by
    intro entry isSection
    obtain ⟨location, _, isEntry⟩ := List.mem_filterMap.mp isSection
    obtain ⟨fields, found, rfl⟩ := Option.map_eq_some_iff.mp isEntry
    refine dict?_write fun rules isRules => RuleSet.decode_encode (storable location rules.1 _ ?_)
    rw [rules?, found]
    exact Dict.get?_eq_some_iff.mpr isRules
  have read : readPairs (fun key => key.text.bind Location.ofName?) (dict? RuleSet.decode)
      (ofJsonMembers ((model.sections Location.byName).map fun entry =>
        (entry.1.name, .object (entry.2.map RuleSet.encode).entries))) =
      some (model.sections Location.byName) :=
    @readPairs_write _ _ _ _ Location.name
      (fun (places : Dict RuleSet) => .object (places.map RuleSet.encode).entries) _
      Location.ofName?_name fields
  rw [encode_eq, decode, ofJson, pairs?, read, Option.map_some, ofSections_sections]

end CheckModel

namespace Model

def Storable : Model → Prop
  | .object _ fields => ∀ field ∈ fields, field.Storable
  | .alias _ _ oneOf _ => ∀ values ∈ oneOf, ∀ value ∈ values, value.Ordered

theorem decode_ofMembers {kind : String} {fields : List (String × Option Json)}
    (distinct : (fields.map Prod.fst).Nodup)
    (isKind : (Dict.find? "kind" fields).join = some (.string kind)) :
    decode (.ofJson (.ofMembers (Json.present fields))) =
      decodeKind kind (.ofJson (.ofMembers (Json.present fields))) := by
  have entries := Dict.nodup_keys (Dict.ofList ((Json.present fields).filterMap id)).increasing
  rw [Json.ofMembers, ofJson, decode, valuesOf_ofJsonMembers entries, find?_entries_present distinct, isKind]
  rfl

theorem encode_object_eq (name : String) (fields : List Field) :
    encode (.object name fields) = .ofMembers (Json.present
      [ ("kind", some (.string "object")), ("name", some (.string name)),
        ("fields", some (.array (fields.map Field.encode))) ]) := rfl

theorem encode_alias_eq (name type : String) (oneOf : Option (List Json)) (description : Option String) :
    encode (.alias name type oneOf description) = .ofMembers (Json.present
      [ ("kind", some (.string "alias")), ("name", some (.string name)), ("type", some (.string type)),
        ("enum", oneOf.map .array), ("description", description.map .string) ]) := by
  simp only [encode, Json.present, List.map_cons, List.map_nil, Option.map_map]
  rfl

theorem decode_encode {model : Model} (storable : model.Storable) :
    decode (.ofJson model.encode) = some model := by
  cases model with
  | object name fields =>
    have read : list? Field.decode (ofJson (.array (fields.map Field.encode))) = some fields :=
      list?_write fun field member => Field.decode_encode (storable field member)
    rw [encode_object_eq, decode_ofMembers (by simp) rfl, decodeKind,
      wholeFields?_ofMembers (by simp)]
    simp [Dict.find?, required?, text?_string, read]
  | «alias» name type oneOf description =>
    rw [encode_alias_eq, decode_ofMembers (by simp) rfl, decodeKind, if_neg (by decide),
      if_pos (by decide), wholeFields?_ofMembers (by simp)]
    simp [-Option.map_map, Dict.find?, required?, text?_string, given?_texts, given?_values storable]

end Model

namespace Endpoint

structure Storable (endpoint : Endpoint) : Prop where
  request : ∀ field ∈ endpoint.request, field.Storable
  response : ∀ field ∈ endpoint.response, field.Storable
  check : endpoint.check.Storable

theorem encode_eq (endpoint : Endpoint) :
    endpoint.encode = .ofMembers (Json.present
      [ ("method", some (.string endpoint.method)), ("url", some (.string endpoint.url)),
        ("operationId", some (.string endpoint.operationId)),
        ("controller", endpoint.controller.map .string), ("summary", endpoint.summary.map .string),
        ("request", some (.array (endpoint.request.map Field.encode))),
        ("response", some (.array (endpoint.response.map Field.encode))),
        ("statuses", some (.array (endpoint.statuses.map .string))),
        ("check", some endpoint.check.encode) ]) := by
  simp only [encode, Json.present, List.map_cons, List.map_nil, Option.map_map]
  rfl

theorem decode_encode {endpoint : Endpoint} (storable : endpoint.Storable) :
    decode (.ofJson endpoint.encode) = some endpoint := by
  have request : list? Field.decode (ofJson (.array (endpoint.request.map Field.encode))) =
      some endpoint.request :=
    list?_write fun field member => Field.decode_encode (storable.request field member)
  have response : list? Field.decode (ofJson (.array (endpoint.response.map Field.encode))) =
      some endpoint.response :=
    list?_write fun field member => Field.decode_encode (storable.response field member)
  have statuses : list? text? (ofJson (.array (endpoint.statuses.map .string))) = some endpoint.statuses :=
    list?_write fun status _ => text?_string status
  rw [encode_eq, decode, wholeFields?_ofMembers (by simp)]
  simp [-Option.map_map, Dict.find?, required?, text?_string, given?_texts, request, response, statuses,
    CheckModel.decode_encode storable.check]

end Endpoint

namespace Contract

structure Storable (contract : Contract) : Prop where
  operations : ∀ endpoint ∈ contract.operations, endpoint.Storable
  models : ∀ model ∈ contract.models, model.Storable

theorem encode_eq (contract : Contract) :
    contract.encode = .ofMembers (Json.present
      [ ("name", some (.string contract.name)), ("version", some (.string contract.version)),
        ("operations", some (.array (contract.operations.map Endpoint.encode))),
        ("models", some (.array (contract.models.map Model.encode))) ]) := rfl

theorem decode_encode_of_storable {contract : Contract} (storable : contract.Storable) :
    decode (.ofJson contract.encode) = some contract := by
  have operations : list? Endpoint.decode (ofJson (.array (contract.operations.map Endpoint.encode))) =
      some contract.operations :=
    list?_write fun endpoint member => Endpoint.decode_encode (storable.operations endpoint member)
  have models : list? Model.decode (ofJson (.array (contract.models.map Model.encode))) =
      some contract.models :=
    list?_write fun model member => Model.decode_encode (storable.models model member)
  rw [encode_eq, decode, wholeFields?_ofMembers (by simp)]
  simp [Dict.find?, required?, text?_string, operations, models]

/-- A contract whose bounds are finite is read from its data as it is, with its hash, and no other such
contract has the same data. -/
theorem read_back_from_data {contract : Contract} (storable : contract.Storable) :
    decode (.ofJson contract.encode) = some contract ∧
      (decode (.ofJson contract.encode)).map contentHash = some contract.contentHash ∧
      ∀ other : Contract, other.Storable → other.encode = contract.encode → other = contract := by
  have read := decode_encode_of_storable storable
  refine ⟨read, congrArg (Option.map contentHash) read, ?_⟩
  intro other otherStorable same
  have otherRead := decode_encode_of_storable otherStorable
  rw [same, read] at otherRead
  exact (Option.some.inj otherRead).symm

end Contract

namespace Aviary

def rules : RuleSet :=
  { RuleSet.empty with
    required := some true
    maximum := some 2.5
    oneOf := some [.object [("a", .null), ("b", .array [.bool true])]] }

def check : CheckModel :=
  (CheckModel.empty.withSection .query (Dict.ofList [("wings", rules), ("", RuleSet.empty)])).withSection
    .path Dict.empty

def wings : Field :=
  { Field.new "wings" "number" with
    inlineRules := some rules, location := some .query, rename := some "Wings" }

def contract : Contract :=
  ⟨"aviary", "1.0",
    [⟨"get", "/birds", "birds", none, some "All birds", [wings], [Field.new "status" "string"], ["200"],
      check⟩],
    [.alias "Bird" "string" (some [.string "crow"]) none, .object "Cage" [wings]]⟩

theorem storable_new (name type : String) : (Field.new name type).Storable where
  inlineRules := by
    intro rules isRules
    cases isRules
  oneOf := by
    intro values isValues
    cases isValues

theorem storable_empty : RuleSet.empty.Storable := ⟨nofun, nofun, nofun⟩

theorem storable_rules : rules.Storable where
  maximum := by
    rintro x ⟨⟩
    rfl
  minimum := nofun
  oneOf := by
    rintro values ⟨⟩ value member
    obtain rfl := List.mem_singleton.mp member
    have before : "a" < "b" := by decide
    simp only [Json.Ordered, Json.OrderedMembers, Json.OrderedItems, and_self, and_true]
    exact List.pairwise_pair.mpr before

theorem storable_check : check.Storable := by
  intro location path found isRules
  cases location with
  | query =>
    have places : check.query = some (Dict.ofList [("wings", rules), ("", RuleSet.empty)]) := rfl
    rw [CheckModel.rules?, CheckModel.section?, places, Option.bind_some,
      Dict.get?_ofList (by decide), Dict.find?_eq_some_iff_of_nodup (by decide)] at isRules
    simp only [List.mem_cons, Prod.mk.injEq, List.not_mem_nil, or_false] at isRules
    obtain ⟨_, rfl⟩ | ⟨_, rfl⟩ := isRules
    · exact storable_rules
    · exact storable_empty
  | path => cases isRules
  | header => cases isRules
  | body => cases isRules
  | definitions => cases isRules

theorem storable_wings : wings.Storable where
  inlineRules := by
    rintro found ⟨⟩
    exact storable_rules
  oneOf := nofun

theorem contract_read_back :
    contract.Storable ∧ Contract.decode (.ofJson contract.encode) = some contract ∧
      ∀ other : Contract, other.Storable → other.encode = contract.encode → other = contract := by
  have onlyWings : ∀ field ∈ [wings], field.Storable := by
    intro field member
    obtain rfl := List.mem_singleton.mp member
    exact storable_wings
  have onlyStatus : ∀ field ∈ [Field.new "status" "string"], field.Storable := by
    intro field member
    obtain rfl := List.mem_singleton.mp member
    exact storable_new "status" "string"
  have storable : contract.Storable := by
    refine ⟨fun endpoint member => ?_, fun model member => ?_⟩
    · obtain rfl := List.mem_singleton.mp member
      exact ⟨onlyWings, onlyStatus, storable_check⟩
    · simp only [contract, List.mem_cons, List.not_mem_nil, or_false] at member
      obtain rfl | rfl := member
      · rintro values ⟨⟩ value isValue
        obtain rfl := List.mem_singleton.mp isValue
        exact trivial
      · exact onlyWings
  obtain ⟨read, _, only⟩ := Contract.read_back_from_data storable
  exact ⟨storable, read, only⟩

end Aviary
end WireContract

import WireContract.Contract.Hash
import WireContract.Proofs.DebugJson
import WireContract.Proofs.StoredContract

namespace WireContract

/-- The debug texts and the data of values of one kind: if two have one debug text, files spell their data
alike. -/
structure Picture (α : Type) where
  text : α → String
  write : α → Json
  whole : ∀ value, Debug.Whole (text value)
  shows : ∀ value other, text value = text other → (write value).spelling = (write other).spelling

namespace Picture

open Debug

def ofBool : Picture Bool where
  text := bool
  write := .bool
  whole := whole_bool
  shows _ _ same := by rw [bool_injective same]

def ofNatural : Picture Nat where
  text := toString
  write := Json.ofNat
  whole := whole_natural
  shows _ _ same := by rw [natural_injective same]

def ofFloat : Picture Float where
  text := float
  write := Json.ofFloat
  whole := whole_float
  shows _ _ same := funext (pretty_ofFloat_of_debug same)

def ofText : Picture String where
  text := Text.quoted
  write := .string
  whole := whole_quoted
  shows _ _ same := by rw [Text.quoted_injective same]

theorem location_injective {first second : Location} (same : location first = location second) :
    first = second := by
  cases first <;> cases second <;> first
    | rfl
    | exact absurd same (by decide)

def ofLocation : Picture Location where
  text := location
  write place := .string place.name
  whole := whole_location
  shows _ _ same := by rw [location_injective same]

def ofValue : Picture Json where
  text := json
  write := id
  whole := whole_json
  shows := spelling_of_json

variable {α β : Type}

theorem shows_map (picture : Picture α) {values others : List α}
    (same : values.map picture.text = others.map picture.text) :
    (values.map picture.write).map Json.spelling = (others.map picture.write).map Json.spelling := by
  rw [List.map_map, List.map_map]
  exact map_eq_of_map_eq picture.shows same

def listed (picture : Picture α) (isThere : ∀ value, picture.text value ≠ "") : Picture (List α) where
  text values := list (values.map picture.text)
  write values := .array (values.map picture.write)
  whole values := by
    refine whole_list fun text member => ?_
    obtain ⟨value, _, rfl⟩ := List.mem_map.mp member
    exact picture.whole value
  shows values others same := by
    have texts : ∀ values : List α, ∀ text ∈ values.map picture.text, Whole text ∧ text ≠ "" := by
      intro values text member
      obtain ⟨value, _, rfl⟩ := List.mem_map.mp member
      exact ⟨picture.whole value, isThere value⟩
    exact Json.spelling_array (picture.shows_map (list_inj (texts values) (texts others) same))

structure Part (α : Type) where
  label : String
  text : α → String
  name : String
  write : α → Option Json
  whole : ∀ value, Whole (text value)
  shows : ∀ value other, text value = text other →
    (write value).map Json.spelling = (write other).map Json.spelling

def always (label name : String) (field : α → β) (picture : Picture β) : Part α where
  label := label
  text value := picture.text (field value)
  name := name
  write value := some (picture.write (field value))
  whole value := picture.whole (field value)
  shows value other same := congrArg some (picture.shows (field value) (field other) same)

def given (label name : String) (field : α → Option β) (picture : Picture β) : Part α where
  label := label
  text value := optional picture.text (field value)
  name := name
  write value := (field value).map picture.write
  whole value := whole_optional picture.whole (field value)
  shows value other same := by
    cases isThere : field value with
    | none =>
      cases otherIsThere : field other with
      | none => rfl
      | some content =>
        rw [isThere, otherIsThere] at same
        exact absurd same (none_ne_some _ _)
    | some content =>
      cases otherIsThere : field other with
      | none =>
        rw [isThere, otherIsThere] at same
        exact absurd same.symm (none_ne_some _ _)
      | some otherContent =>
        rw [isThere, otherIsThere] at same
        exact congrArg some (picture.shows content otherContent (call_inj same))

/-- The debug text of a record and the record as data. Labels are plain, and data can have further fields that
are the same in all of them. -/
structure IsRecord (title : String) (more : List (String × Option Json)) (parts : List (Part α))
    (text : α → String) (write : α → Json) : Prop where
  plainTitle : title.toList.all unmarked = true
  plainLabels : (parts.map Part.label).all (fun label => label.toList.all unmarked) = true
  text_eq : ∀ value, text value = record title (parts.map fun part => (part.label, part.text value))
  write_eq : ∀ value, write value =
    .ofMembers (Json.present (more ++ parts.map fun part => (part.name, part.write value)))

def ofRecord {title : String} {more : List (String × Option Json)} {parts : List (Part α)}
    {text : α → String} {write : α → Json} (isRecord : IsRecord title more parts text write) :
    Picture α where
  text := text
  write := write
  whole value := by
    have labels := isRecord.plainLabels
    rw [isRecord.text_eq]
    refine whole_record (whole_of_unmarked isRecord.plainTitle) ?_ ?_
    · rwa [List.map_map]
    · intro field member
      obtain ⟨part, _, rfl⟩ := List.mem_map.mp member
      exact part.whole value
  shows value other same := by
    have whole (value : α) :
        ∀ field ∈ parts.map fun part => (part.label, part.text value), Whole field.2 := by
      intro field member
      obtain ⟨part, _, rfl⟩ := List.mem_map.mp member
      exact part.whole value
    rw [isRecord.text_eq, isRecord.text_eq] at same
    have keys : (parts.map fun part => (part.label, part.text value)).map Prod.fst =
        (parts.map fun part => (part.label, part.text other)).map Prod.fst := by
      rw [List.map_map, List.map_map]
      rfl
    have texts := List.map_inj_left.mp (record_inj keys (whole value) (whole other) same)
    rw [isRecord.write_eq, isRecord.write_eq]
    apply Json.spelling_ofMembers
    rw [List.map_append, List.map_append, List.map_map, List.map_map]
    refine congrArg _ (List.map_congr_left fun part member => ?_)
    exact congrArg (Prod.mk part.name) (part.shows value other (Prod.mk.inj (texts part member)).2)

theorem ofRecord_text_ne {title : String} {more : List (String × Option Json)} {parts : List (Part α)}
    {text : α → String} {write : α → Json} (isRecord : IsRecord title more parts text write) (value : α) :
    text value ≠ "" := by
  intro empty
  have length := congrArg String.length empty
  rw [isRecord.text_eq, record_eq] at length
  simp at length

def ofValues : Picture (List Json) where
  text := jsonList
  write := .array
  whole := (ofValue.listed json_ne_empty).whole
  shows values others same := by
    have shown := (ofValue.listed json_ne_empty).shows values others same
    simpa only [listed, ofValue, List.map_id] using shown

def rulesParts : List (Part RuleSet) :=
  [ given "required" "required" RuleSet.required ofBool,
    given "max_length" "maxLength" RuleSet.maxLength ofNatural,
    given "min_length" "minLength" RuleSet.minLength ofNatural,
    given "x_max_length" "x-maxLength" RuleSet.xMaxLength ofNatural,
    given "x_min_length" "x-minLength" RuleSet.xMinLength ofNatural,
    given "maximum" "maximum" RuleSet.maximum ofFloat,
    given "minimum" "minimum" RuleSet.minimum ofFloat,
    given "pattern" "pattern" RuleSet.pattern ofText,
    given "enum_values" "enum" RuleSet.oneOf ofValues,
    given "max_items" "maxItems" RuleSet.maxItems ofNatural,
    given "min_items" "minItems" RuleSet.minItems ofNatural ]

theorem isRecord_rules : IsRecord "RuleSet" [] rulesParts rules RuleSet.encode where
  plainTitle := rfl
  plainLabels := rfl
  text_eq _ := rfl
  write_eq := RuleSet.encode_eq

def ofRules : Picture RuleSet := ofRecord isRecord_rules

def fieldParts : List (Part Field) :=
  [ always "name" "name" Field.name ofText, always "type_name" "type" Field.type ofText,
    always "optional" "optional" Field.optional ofBool,
    given "description" "description" Field.description ofText,
    given "referenced_type" "referencedType" Field.referencedType ofText,
    given "inline_rules" "inlineRules" Field.inlineRules ofRules,
    given "location" "location" Field.location ofLocation,
    given "rename" "rename" Field.rename ofText, given "enum_values" "enum" Field.oneOf ofValues ]

theorem isRecord_field : IsRecord "FieldDescriptor" [] fieldParts field Field.encode where
  plainTitle := rfl
  plainLabels := rfl
  text_eq _ := rfl
  write_eq := Field.encode_eq

def ofField : Picture Field := ofRecord isRecord_field

def ofFields : Picture (List Field) := ofField.listed (ofRecord_text_ne isRecord_field)

def objectParts : List (Part (String × List Field)) :=
  [always "name" "name" Prod.fst ofText, always "fields" "fields" Prod.snd ofFields]

theorem isRecord_object :
    IsRecord "Object" [("kind", some (.string "object"))] objectParts
      (fun object => model (.object object.1 object.2))
      (fun object => Model.encode (.object object.1 object.2)) where
  plainTitle := rfl
  plainLabels := rfl
  text_eq _ := rfl
  write_eq _ := rfl

structure Alias where
  name : String
  type : String
  oneOf : Option (List Json)
  description : Option String

def aliasParts : List (Part Alias) :=
  [ always "name" "name" Alias.name ofText, always "type_name" "type" Alias.type ofText,
    given "enum_values" "enum" Alias.oneOf ofValues,
    given "description" "description" Alias.description ofText ]

theorem isRecord_alias :
    IsRecord "Alias" [("kind", some (.string "alias"))] aliasParts
      (fun parts => model (.alias parts.name parts.type parts.oneOf parts.description))
      (fun parts => Model.encode (.alias parts.name parts.type parts.oneOf parts.description)) where
  plainTitle := rfl
  plainLabels := rfl
  text_eq _ := rfl
  write_eq _ := Model.encode_alias_eq _ _ _ _

theorem object_ne_alias (name : String) (fields : List Field) (otherName type : String)
    (oneOf : Option (List Json)) (description : Option String) :
    model (.object name fields) ≠ model (.alias otherName type oneOf description) := by
  intro same
  have chars := congrArg String.toList same
  simp [model, record] at chars

def ofModel : Picture Model where
  text := model
  write := Model.encode
  whole value := by
    cases value with
    | object name fields => exact (ofRecord isRecord_object).whole (name, fields)
    | «alias» name type oneOf description =>
      exact (ofRecord isRecord_alias).whole ⟨name, type, oneOf, description⟩
  shows value other same := by
    cases value with
    | object name fields =>
      cases other with
      | object otherName otherFields =>
        exact (ofRecord isRecord_object).shows (name, fields) (otherName, otherFields) same
      | «alias» => exact absurd same (object_ne_alias _ _ _ _ _ _)
    | «alias» name type oneOf description =>
      cases other with
      | object => exact absurd same.symm (object_ne_alias _ _ _ _ _ _)
      | «alias» otherName otherType otherOneOf otherDescription =>
        exact (ofRecord isRecord_alias).shows ⟨name, type, oneOf, description⟩
          ⟨otherName, otherType, otherOneOf, otherDescription⟩ same

theorem ofModel_text_ne (value : Model) : model value ≠ "" := by
  cases value with
  | object name fields => exact ofRecord_text_ne isRecord_object (name, fields)
  | «alias» name type oneOf description =>
    exact ofRecord_text_ne isRecord_alias ⟨name, type, oneOf, description⟩

def ofModels : Picture (List Model) := ofModel.listed ofModel_text_ne

theorem shows_entries {κ : Type} (picture : Picture α) {key : κ → String} (name : κ → String)
    (isKey : ∀ {first second text otherText},
      entry (key first, text) = entry (key second, otherText) → first = second ∧ text = otherText)
    {entries others : List (κ × α)}
    (same : (entries.map fun pair => entry (key pair.1, picture.text pair.2)) =
      others.map fun pair => entry (key pair.1, picture.text pair.2)) :
    (entries.map fun pair => (name pair.1, (picture.write pair.2).spelling)) =
      others.map fun pair => (name pair.1, (picture.write pair.2).spelling) := by
  refine map_eq_of_map_eq (fun pair other same => ?_) same
  obtain ⟨keys, texts⟩ := isKey same
  rw [keys, picture.shows pair.2 other.2 texts]

def ofDict (picture : Picture α) : Picture (Dict α) where
  text dict := map (dict.entries.map fun pair => (Text.quoted pair.1, picture.text pair.2))
  write dict := .object (dict.map picture.write).entries
  whole dict := by
    refine whole_map fun pair member => ?_
    obtain ⟨content, _, rfl⟩ := List.mem_map.mp member
    exact ⟨whole_quoted content.1, picture.whole content.2⟩
  shows dict other same := by
    have whole (dict : Dict α) :
        ∀ pair ∈ dict.entries.map fun pair => (Text.quoted pair.1, picture.text pair.2),
          Whole pair.1 ∧ Whole pair.2 := by
      intro pair member
      obtain ⟨content, _, rfl⟩ := List.mem_map.mp member
      exact ⟨whole_quoted content.1, picture.whole content.2⟩
    have entries := map_inj (whole dict) (whole other) same
    rw [List.map_map, List.map_map] at entries
    apply Json.spelling_object
    simp only [Dict.map, List.map_map]
    exact picture.shows_entries id entry_quoted_inj entries

theorem entry_location_inj {place otherPlace : Location} {text otherText : String}
    (same : entry (location place, text) = entry (location otherPlace, otherText)) :
    place = otherPlace ∧ text = otherText := by
  have chars := congrArg String.toList same
  cases place <;> cases otherPlace <;> simp [entry, location, String.toList_inj] at chars <;>
    exact ⟨rfl, chars⟩

theorem checkModel_eq (check : CheckModel) :
    checkModel check =
      record "CheckModel"
        [ ("sections", map ((check.sections Location.all).map fun pair =>
            (location pair.1, ofRules.ofDict.text pair.2))) ] := by
  rw [CheckModel.sections, List.map_filterMap]
  simp only [Option.map_map]
  rfl

theorem members_eq (check : CheckModel) :
    (check.members fun fields => .object (fields.map RuleSet.encode).entries) =
      (check.sections Location.all).map fun pair => (pair.1.name, ofRules.ofDict.write pair.2) := by
  rw [CheckModel.members, CheckModel.sections, List.map_filterMap]
  simp only [Option.map_map]
  rfl

theorem whole_sections (check : CheckModel) :
    ∀ pair ∈ (check.sections Location.all).map fun pair =>
      (location pair.1, ofRules.ofDict.text pair.2), Whole pair.1 ∧ Whole pair.2 := by
  intro pair member
  obtain ⟨content, _, rfl⟩ := List.mem_map.mp member
  exact ⟨whole_location content.1, ofRules.ofDict.whole content.2⟩

theorem checkModel_append_inj {check other : CheckModel} {rest otherRest : List Char}
    (same : (checkModel check).toList ++ rest = (checkModel other).toList ++ otherRest) :
    check.encode.spelling = other.encode.spelling ∧ rest = otherRest := by
  have whole (check : CheckModel) :
      ∀ field ∈ [ ("sections", map ((check.sections Location.all).map fun pair =>
        (location pair.1, ofRules.ofDict.text pair.2))) ], Whole field.2 := by
    intro field member
    obtain rfl := List.mem_singleton.mp member
    exact whole_map (whole_sections check)
  rw [checkModel_eq, checkModel_eq] at same
  obtain ⟨fields, restSame⟩ := record_append_inj (by rfl) (whole check) (whole other) same
  refine ⟨?_, restSame⟩
  have sections := map_inj (whole_sections check) (whole_sections other)
    (Prod.mk.inj (List.singleton_inj.mp fields)).2
  rw [List.map_map, List.map_map] at sections
  rw [CheckModel.encode, CheckModel.encode]
  apply Json.spelling_dict
  rw [members_eq, members_eq, List.map_map, List.map_map]
  exact ofRules.ofDict.shows_entries Location.name entry_location_inj sections

theorem listed_append_inj (picture : Picture α) (isThere : ∀ value, picture.text value ≠ "")
    {values others : List α} {rest otherRest : List Char}
    (same : (list (values.map picture.text)).toList ++ rest =
      (list (others.map picture.text)).toList ++ otherRest) :
    values.map picture.text = others.map picture.text ∧ rest = otherRest := by
  have texts (values : List α) : ∀ text ∈ values.map picture.text, Whole text ∧ text ≠ "" := by
    intro text member
    obtain ⟨value, _, rfl⟩ := List.mem_map.mp member
    exact ⟨picture.whole value, isThere value⟩
  exact list_append_inj (texts values) (texts others) same

theorem field_name_inj {descriptor other : Field} (same : field descriptor = field other) :
    descriptor.name = other.name := by
  have whole (descriptor : Field) : ∀ entry ∈ fieldParts.map fun part => (part.label, part.text descriptor),
      Whole entry.2 := by
    intro entry member
    obtain ⟨part, _, rfl⟩ := List.mem_map.mp member
    exact part.whole descriptor
  have fields := record_inj (by rfl) (whole descriptor) (whole other) same
  exact Text.quoted_injective (Prod.mk.inj (List.cons.inj fields).1).2

end Picture

end WireContract

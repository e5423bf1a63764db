import WireContract.Mapping.Table

/-!
Conversion between the values of models and data. Outward, properties are renamed and scalar ones checked;
a failed check is reported and changes nothing. Inward, names are mapped back and derived properties
computed, also those that are missing.
-/

namespace WireContract

/-- A value that did not pass its check, under its name in data; no rule is named if a predicate failed. -/
structure CheckFailure where
  field : String
  value : Json
  rule : Option Rule

namespace Tables

variable {κ : Type} (tables : Tables κ)

def tableOf (property : Option (Property κ)) : Option (Table κ) :=
  (property.bind Property.nested).map tables

mutual

def outbound (table : Option (Table κ)) : Json → Json
  | .array items => .array (outboundItems table items)
  | .object members => .object (Dict.ofList (outboundMembers table members)).entries
  | value => value

def outboundItems (table : Option (Table κ)) : List Json → List Json
  | [] => []
  | item :: rest => outbound table item :: outboundItems table rest

def outboundMembers (table : Option (Table κ)) : List (String × Json) → List (String × Json)
  | [] => []
  | (key, item) :: rest =>
    let property := table.bind fun table => table.property? key
    ((property.map Property.wireName).getD key, outbound (tables.tableOf property) item) ::
      outboundMembers table rest

end

def failuresOf (outcome : Json → RuleSet → Outcome) (field : String) (value : Json) :
    ValueCheck → List CheckFailure
  | .predicate holds => if holds value then [] else [⟨field, value, none⟩]
  | .rules rules =>
    (rules.keys.filter fun rule => outcome value (rules.only rule) == .fail).map
      fun rule => ⟨field, value, some rule⟩

mutual

def failures (outcome : Json → RuleSet → Outcome) (table : Option (Table κ)) :
    Json → List CheckFailure
  | .array items => failuresIn outcome table items
  | .object members => failuresAt outcome table members
  | _ => []

def failuresIn (outcome : Json → RuleSet → Outcome) (table : Option (Table κ)) :
    List Json → List CheckFailure
  | [] => []
  | item :: rest => failures outcome table item ++ failuresIn outcome table rest

def failuresAt (outcome : Json → RuleSet → Outcome) (table : Option (Table κ)) :
    List (String × Json) → List CheckFailure
  | [] => []
  | (key, item) :: rest =>
    let property := table.bind fun table => table.property? key
    let check := property.bind Property.check
    (match item, check with
      | .array _, _ | .object _, _ => failures outcome (tables.tableOf property) item
      | _, some check => failuresOf outcome ((property.map Property.wireName).getD key) item check
      | _, none => []) ++
      failuresAt outcome table rest

end

def derived (table : Table κ) (seen : List String) (root parent : Json) : List (String × Json) :=
  table.properties.filterMap fun property =>
    if seen.contains property.name then none
    else property.transform.map fun transform => (property.name, transform root parent)

mutual

/-- The value of a model from data; `root` is what derived properties take for the outermost object. -/
def inbound (root : Json) (table : Option (Table κ)) (wire : Json) : Json :=
  match table, wire with
  | none, wire => wire
  | some table, .array items => .array (inboundItems root table items)
  | some table, .object members =>
    let parent : Json := .object members
    let given := inboundMembers root parent table members
    .object (Dict.ofList (given ++ derived table (given.map Prod.fst) root parent)).entries
  | some _, value => value

def inboundItems (root : Json) (table : Table κ) : List Json → List Json
  | [] => []
  | item :: rest => inbound root (some table) item :: inboundItems root table rest

def inboundMembers (root parent : Json) (table : Table κ) :
    List (String × Json) → List (String × Json)
  | [] => []
  | (key, item) :: rest =>
    let name := table.propertyFor key
    let property := table.property? name
    let value :=
      match tables.tableOf property with
      | some nested => inbound root (some nested) item
      | none =>
        match property.bind Property.transform with
        | some transform => transform root parent
        | none => item
    (name, value) :: inboundMembers root parent table rest

end

end Tables
end WireContract

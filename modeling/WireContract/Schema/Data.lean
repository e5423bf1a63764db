import WireContract.Schema.Node

namespace WireContract

namespace Required

def encode : Required → Json
  | .flag on => .bool on
  | .fields names => .array (names.map .string)

def textsOf? : List Json → Option (List String)
  | [] => some []
  | .string text :: rest => (textsOf? rest).map (text :: ·)
  | _ :: _ => none

/-- A truth value or a list of texts, whatever else could be read from the same spelling. -/
def decode (source : Source) : Option Required :=
  match source.untyped? with
  | some (.bool on) => some (.flag on)
  | some (.array items) => (textsOf? items).map .fields
  | _ => none

end Required

namespace SchemaNode

def fieldNames : List String :=
  ["name", "in", "type", "format", "description", "$ref", "schema", "items", "properties", "allOf",
    "required", "enum"] ++
    (Rule.all.filter fun rule => rule != .required && rule != .oneOf).map Rule.name

def encodeText (name : String) (text : Option String) : Option (String × Json) :=
  text.map fun text => (name, .string text)

mutual

def encode : SchemaNode → Json
  | ⟨name, location, type, format, description, reference, schema, items, properties, allOf, required,
      rules⟩ =>
    .object (Dict.ofList
      ([ encodeText "name" name, encodeText "in" location, encodeText "type" type,
        encodeText "format" format, encodeText "description" description,
        encodeText "$ref" reference, encodeOptional "schema" schema, encodeOptional "items" items,
        encodeProperties properties, encodeBranches allOf,
        required.map fun required => ("required", required.encode) ].filterMap id ++
        { rules with required := none }.members)).entries

def encodeOptional (name : String) : Option SchemaNode → Option (String × Json)
  | none => none
  | some node => some (name, encode node)

def encodeProperties : Option (List (String × SchemaNode)) → Option (String × Json)
  | none => none
  | some properties => some ("properties", .object (encodeMembers properties))

def encodeMembers : List (String × SchemaNode) → List (String × Json)
  | [] => []
  | (key, node) :: rest => (key, encode node) :: encodeMembers rest

def encodeBranches : Option (List SchemaNode) → Option (String × Json)
  | none => none
  | some branches => some ("allOf", .array (encodeItems branches))

def encodeItems : List SchemaNode → List Json
  | [] => []
  | node :: rest => encode node :: encodeItems rest

end

open Source in
/-- Reads a node; `fuel` bounds the depth of the source. -/
def decodeWith : Nat → Source → Option SchemaNode
  | 0, _ => none
  | fuel + 1, source =>
    match fields? fieldNames source with
    | some [name, location, type, format, description, reference, schema, items, properties, allOf,
        required, oneOf, maxLength, minLength, xMaxLength, xMinLength, maximum, minimum, pattern,
        maxItems, minItems] => do
      let name ← given? text? name
      let location ← given? text? location
      let type ← given? text? type
      let format ← given? text? format
      let description ← given? text? description
      let reference ← given? text? reference
      let schema ← given? (decodeWith fuel) schema
      let items ← given? (decodeWith fuel) items
      let properties ← given? (dict? (decodeWith fuel)) properties
      let allOf ← given? (list? (decodeWith fuel)) allOf
      let required ← given? Required.decode required
      let oneOf ← given? (list? untyped?) oneOf
      let maxLength ← given? natural? maxLength
      let minLength ← given? natural? minLength
      let xMaxLength ← given? natural? xMaxLength
      let xMinLength ← given? natural? xMinLength
      let maximum ← given? float? maximum
      let minimum ← given? float? minimum
      let pattern ← given? text? pattern
      let maxItems ← given? natural? maxItems
      let minItems ← given? natural? minItems
      return ⟨name, location, type, format, description, reference, schema, items,
        properties.map Dict.entries, allOf, required,
        ⟨none, maxLength, minLength, xMaxLength, xMinLength, maximum, minimum, pattern, oneOf, maxItems,
          minItems⟩⟩
    | _ => none

def decode (source : Source) : Option SchemaNode := decodeWith (source.depth + 1) source

end SchemaNode
end WireContract

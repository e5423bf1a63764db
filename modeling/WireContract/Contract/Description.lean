import WireContract.Contract.Basic
import WireContract.Schema.Compilation
import WireContract.Text.Camel

namespace WireContract

namespace Definitions

def typeOf (definitions : Definitions) (node : SchemaNode) : String × Option String :=
  match node.reference with
  | some reference =>
    let name := definitions.nameOf reference
    (name, some name)
  | none =>
    match node.type with
    | some "array" =>
      match _isItems : node.items with
      | some items =>
        let (element, referenced) := typeOf definitions items
        (element ++ "[]", referenced)
      | none => ("any[]", none)
    | some "integer" => ("number", none)
    | some other => (other, none)
    | none => (if node.isComposite then "object" else "any", none)
termination_by sizeOf node
decreasing_by exact SchemaNode.sizeOf_items_lt _isItems

def describe (definitions : Definitions) (name : String) (node : SchemaNode) : Field :=
  let (type, referenced) := definitions.typeOf node
  { Field.new name type with
    referencedType := referenced
    oneOf := node.rules.oneOf.or (node.items.bind fun items => items.rules.oneOf) }

end Definitions

namespace Field

/-- Names the field in camel case, and keeps its name in data if that differs. -/
def inCamelCase (field : Field) : Field :=
  let camel := Text.lowerCamel field.name
  if camel != "" && camel != field.name then { field with name := camel, rename := some field.name }
  else field

def ofParameter? (definitions : Definitions) (check : CheckModel) (parameter : SchemaNode) :
    Option Field :=
  parameter.name.map fun name =>
    inCamelCase
      { definitions.describe name (parameter.schema.getD parameter) with
        optional := !parameter.isRequired
        description := parameter.description
        location := parameter.location.bind Location.ofName?
        inlineRules := parameter.place?.bind fun (location, path) => check.rules? location path }

def responseHeaders : Field :=
  { new "rspHeaders" "object" with optional := true, description := some "Response headers" }

def ofResponse (definitions : Definitions) (status : String) (response : SchemaNode) : Field :=
  { definitions.describe ("rsp" ++ status) (response.schema.getD response) with
    optional := true
    description := response.description }

def status (statuses : List String) : Field :=
  { new "status" "string" with oneOf := some (statuses.map .string) }

/-- The headers, one field for each response, and the status if there is any response. -/
def ofResponses (definitions : Definitions) (responses : Dict SchemaNode) : List Field :=
  responseHeaders ::
    (responses.entries.map (fun (status, response) => ofResponse definitions status response) ++
      if responses.isEmpty then [] else [status responses.keys])

end Field

namespace Model

/-- The fields that an object takes its properties from: its branches, at any depth, and then itself. A
reference to a definition that is being gathered already adds nothing. -/
def parts (definitions : Definitions) (seen : List String) (node : SchemaNode) : List SchemaNode :=
  node.branches.attach.flatMap (fun ⟨branch, _isBranch⟩ =>
    match branch.reference with
    | some reference =>
      match definitions.target? reference with
      | none => []
      | some ⟨(name, target), _present⟩ =>
        if _isSeen : seen.contains name then [] else parts definitions (name :: seen) target
    | none => parts definitions seen branch) ++ [node]
termination_by (definitions.remaining seen, node.descent)
decreasing_by
  · exact Prod.Lex.left _ _ (Definitions.remaining_lt _present (by simpa using _isSeen))
  · have member := List.sizeOf_lt_of_mem _isBranch
    have above := node.sizeOf_branches_lt
    have below := branch.descent_lt_sizeOf
    exact Prod.Lex.right _ (by omega)

def field (compiler : Compiler) (required : List String) (key : String) (property : SchemaNode) :
    Field :=
  let listed := required.contains key
  Field.inCamelCase
    { compiler.definitions.describe key property with
      optional := !listed
      description := property.description
      inlineRules := (compiler.shallow ∅ .definitions key property listed).rules? .definitions key }

/-- The model of a definition. The fields of an object are all properties of its parts; where parts share
a key the last counts. -/
def ofDefinition (compiler : Compiler) (name : String) (node : SchemaNode) : Model :=
  if node.isComposite then
    let parts := parts compiler.definitions [name] node
    let required := parts.flatMap SchemaNode.requiredFields
    let properties := Dict.ofList (parts.flatMap SchemaNode.members)
    .object name (properties.entries.map fun (key, property) => field compiler required key property)
  else .alias name (compiler.definitions.typeOf node).1 node.rules.oneOf node.description

end Model
end WireContract

import WireContract.Contract.Basic

namespace WireContract

def Json.ofMembers (members : List (Option (String × Json))) : Json :=
  .object (Dict.ofList (members.filterMap id)).entries

namespace Location

/-- A location by its name, alone or as the only key of a record. -/
def decode : Source → Option Location
  | .scalar s => s.text.bind ofName?
  | .record _ [(key, value)] =>
    match value.untyped? with
    | some .null => key.text.bind ofName?
    | _ => none
  | _ => none

end Location

namespace Field

def encode (field : Field) : Json :=
  .ofMembers
    [ some ("name", .string field.name), some ("type", .string field.type),
      some ("optional", .bool field.optional),
      field.description.map fun text => ("description", .string text),
      field.referencedType.map fun name => ("referencedType", .string name),
      field.inlineRules.map fun rules => ("inlineRules", rules.encode),
      field.location.map fun location => ("location", .string location.name),
      field.rename.map fun name => ("rename", .string name),
      field.oneOf.map fun values => ("enum", .array values) ]

open Source in
def decode (source : Source) : Option Field :=
  match wholeFields? ["name", "type", "optional", "description", "referencedType", "inlineRules",
      "location", "rename", "enum"] source with
  | some [name, type, optional, description, referencedType, inlineRules, location, rename, oneOf] => do
    let name ← required? text? name
    let type ← required? text? type
    let optional ← required? bool? optional
    let description ← given? text? description
    let referencedType ← given? text? referencedType
    let inlineRules ← given? RuleSet.decode inlineRules
    let location ← given? Location.decode location
    let rename ← given? text? rename
    let oneOf ← given? (list? untyped?) oneOf
    return ⟨name, type, optional, description, referencedType, inlineRules, location, rename, oneOf⟩
  | _ => none

end Field

namespace Model

def encode : Model → Json
  | .object name fields =>
    .ofMembers
      [ some ("kind", .string "object"), some ("name", .string name),
        some ("fields", .array (fields.map Field.encode)) ]
  | .alias name type oneOf description =>
    .ofMembers
      [ some ("kind", .string "alias"), some ("name", .string name), some ("type", .string type),
        oneOf.map fun values => ("enum", .array values),
        description.map fun text => ("description", .string text) ]

open Source in
def decodeKind (kind : String) (source : Source) : Option Model :=
  if kind == "object" then
    match wholeFields? ["name", "fields"] source with
    | some [name, fields] => do
      let name ← required? text? name
      let fields ← required? (list? Field.decode) fields
      return .object name fields
    | _ => none
  else if kind == "alias" then
    match wholeFields? ["name", "type", "enum", "description"] source with
    | some [name, type, oneOf, description] => do
      let name ← required? text? name
      let type ← required? text? type
      let oneOf ← given? (list? untyped?) oneOf
      let description ← given? text? description
      return .alias name type oneOf description
    | _ => none
  else none

open Source in
/-- Reads a model; its kind is a field of its record, or the first item of its list. -/
def decode (source : Source) : Option Model :=
  match source with
  | .record _ pairs =>
    match valuesOf "kind" pairs with
    | [kind] => do decodeKind (← kind.text?) source
    | _ => none
  | .list positional closed (kind :: items) => do
    decodeKind (← kind.text?) (.list positional closed items)
  | _ => none

end Model

namespace Endpoint

def encode (endpoint : Endpoint) : Json :=
  .ofMembers
    [ some ("method", .string endpoint.method), some ("url", .string endpoint.url),
      some ("operationId", .string endpoint.operationId),
      endpoint.controller.map fun name => ("controller", .string name),
      endpoint.summary.map fun text => ("summary", .string text),
      some ("request", .array (endpoint.request.map Field.encode)),
      some ("response", .array (endpoint.response.map Field.encode)),
      some ("statuses", .array (endpoint.statuses.map .string)),
      some ("check", endpoint.check.encode) ]

open Source in
def decode (source : Source) : Option Endpoint :=
  match wholeFields? ["method", "url", "operationId", "controller", "summary", "request", "response",
      "statuses", "check"] source with
  | some [method, url, operationId, controller, summary, request, response, statuses, check] => do
    let method ← required? text? method
    let url ← required? text? url
    let operationId ← required? text? operationId
    let controller ← given? text? controller
    let summary ← given? text? summary
    let request ← required? (list? Field.decode) request
    let response ← required? (list? Field.decode) response
    let statuses ← required? (list? text?) statuses
    let check ← required? CheckModel.decode check
    return ⟨method, url, operationId, controller, summary, request, response, statuses, check⟩
  | _ => none

end Endpoint

namespace Contract

def encode (contract : Contract) : Json :=
  .ofMembers
    [ some ("name", .string contract.name), some ("version", .string contract.version),
      some ("operations", .array (contract.operations.map Endpoint.encode)),
      some ("models", .array (contract.models.map Model.encode)) ]

open Source in
def decode (source : Source) : Option Contract :=
  match wholeFields? ["name", "version", "operations", "models"] source with
  | some [name, version, operations, models] => do
    let name ← required? text? name
    let version ← required? text? version
    let operations ← required? (list? Endpoint.decode) operations
    let models ← required? (list? Model.decode) models
    return ⟨name, version, operations, models⟩
  | _ => none

end Contract
end WireContract

import WireContract.Schema.Document

namespace WireContract

def nonemptyList (name : String) (items : List Json) : Option (String × Json) :=
  if items.isEmpty then none else some (name, .array items)

def encodeNodes (nodes : Dict SchemaNode) : Json := .object (nodes.map SchemaNode.encode).entries

namespace Operation

def encode (operation : Operation) : Json :=
  .object (Dict.ofList
    ([ operation.operationId.map fun id => ("operationId", .string id),
       nonemptyList "tags" (operation.tags.map .string),
       operation.summary.map fun summary => ("summary", .string summary),
       nonemptyList "parameters" (operation.parameters.map SchemaNode.encode),
       some ("responses", encodeNodes operation.responses) ].filterMap id)).entries

open Source in
def decode (source : Source) : Option Operation :=
  match fields? ["operationId", "tags", "summary", "parameters", "responses"] source with
  | some [operationId, tags, summary, parameters, responses] => do
    let operationId ← given? text? operationId
    let tags ← defaulted? [] (list? text?) tags
    let summary ← given? text? summary
    let parameters ← defaulted? [] (list? SchemaNode.decode) parameters
    let responses ← defaulted? [] (pairs? StatusKey.decode SchemaNode.decode) responses
    return ⟨operationId, tags, summary, parameters, Responses.ofList responses⟩
  | _ => none

end Operation

namespace PathItem

def encode (item : PathItem) : Json :=
  .object (Dict.ofList
    (item.operations.map (fun (method, operation) => (method.name, operation.encode)) ++
      (nonemptyList "parameters" (item.parameters.map SchemaNode.encode)).toList)).entries

open Source in
def decode (source : Source) : Option PathItem :=
  match fields? (Method.all.map Method.name ++ ["parameters"]) source with
  | some [get, put, post, delete, options, head, patch, parameters] => do
    let get ← given? Operation.decode get
    let put ← given? Operation.decode put
    let post ← given? Operation.decode post
    let delete ← given? Operation.decode delete
    let options ← given? Operation.decode options
    let head ← given? Operation.decode head
    let patch ← given? Operation.decode patch
    let parameters ← defaulted? [] (list? SchemaNode.decode) parameters
    let operation? : Method → Option Operation
      | .get => get
      | .put => put
      | .post => post
      | .delete => delete
      | .options => options
      | .head => head
      | .patch => patch
    return ⟨operation?, parameters⟩
  | _ => none

end PathItem

namespace Document

def encode (document : Document) : Json :=
  .object (Dict.ofList
    ([ document.basePath.map fun base => ("basePath", .string base),
       some ("definitions", encodeNodes document.definitions),
       some ("paths", .object (document.paths.map PathItem.encode).entries) ].filterMap id)).entries

open Source in
def decode (source : Source) : Option Document :=
  match fields? ["basePath", "definitions", "paths"] source with
  | some [basePath, definitions, paths] => do
    let basePath ← given? text? basePath
    let definitions ← defaulted? ∅ (dict? SchemaNode.decode) definitions
    let paths ← defaulted? ∅ (dict? PathItem.decode) paths
    return ⟨basePath, definitions, paths⟩
  | _ => none

end Document
end WireContract

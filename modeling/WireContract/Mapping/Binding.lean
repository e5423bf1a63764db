import WireContract.Mapping.Conversion
import WireContract.Request.Basic

namespace WireContract

namespace Json

def isPresent : Json → Bool
  | .null => false
  | .bool b => b
  | .string s => !s.isEmpty
  | .number n => n.toFloat != 0.0
  | _ => true

end Json

namespace Request

def takeFrom (values : Dict Json) (key : String) : Option (Json × Dict Json) :=
  match values.get? key with
  | some value => if value.isPresent then some (value, values.erase key) else none
  | none => none

def takeParam (request : Request) (name : String) : Option Json × Request :=
  match takeFrom request.params name with
  | some (value, params) => (some value, { request with params := params })
  | none => (none, request)

/-- Takes the value at a location, or else the path parameter of that name. A body is taken whole and
leaves an empty object. -/
def take (request : Request) (location : Location) (name : String) : Option Json × Request :=
  match location with
  | .query =>
    match takeFrom request.query name with
    | some (value, query) => (some value, { request with query := query })
    | none => request.takeParam name
  | .header =>
    match takeFrom request.headers (headerName name) with
    | some (value, headers) => (some value, { request with headers := headers })
    | none => request.takeParam name
  | .body =>
    if request.body.isNull then request.takeParam name
    else (some request.body, { request with body := .object [] })
  | _ => request.takeParam name

end Request

namespace Tables

variable {κ : Type} (tables : Tables κ)

/-- Takes the values of the located properties in order: the values by property, and what is left. -/
def bind (bound : Dict Json) (request : Request) : List (Property κ) → Dict Json × Request
  | [] => (bound, request)
  | property :: rest =>
    match property.location with
    | none => bind bound request rest
    | some location =>
      match request.take location property.wireName with
      | (some raw, request) =>
        let value := tables.inbound raw (tables.tableOf (some property)) raw
        bind (bound.insert property.name value) request rest
      | (none, request) => bind bound request rest

def bindRequest (table : Table κ) (request : Request) : Json × Request :=
  let (bound, request) := tables.bind ∅ request table.properties
  (.object bound.entries, request)

def bindAs {ε α : Type} (build : Json → Except ε α) (table : Table κ) (request : Request) :
    Except ε α × Request :=
  let (bound, rest) := tables.bindRequest table request
  (build bound, rest)

end Tables
end WireContract

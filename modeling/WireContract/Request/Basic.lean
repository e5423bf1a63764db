import WireContract.Decode.Reading
import WireContract.Text.Basic

namespace WireContract

structure Request where
  query : Dict Json
  params : Dict Json
  headers : Dict Json
  body : Json

namespace Request

def empty : Request := ⟨∅, ∅, ∅, .null⟩

instance : EmptyCollection Request := ⟨empty⟩

instance : Inhabited Request := ⟨empty⟩

def headerName (name : String) : String := Text.asciiLower name

def withQuery (request : Request) (name : String) (value : Json) : Request :=
  { request with query := request.query.insert name value }

def withParam (request : Request) (name : String) (value : Json) : Request :=
  { request with params := request.params.insert name value }

def withHeader (request : Request) (name : String) (value : Json) : Request :=
  { request with headers := request.headers.insert (headerName name) value }

def withBody (request : Request) (body : Json) : Request := { request with body := body }

def header? (request : Request) (name : String) : Option Json :=
  request.headers.get? (headerName name)

/-- Lower-cases the names of all headers; of headers that become one the last by name is kept. -/
def normalizeHeaders (request : Request) : Request :=
  { request with headers :=
      Dict.ofList (request.headers.entries.map fun (name, value) => (headerName name, value)) }

def encode (request : Request) : Json :=
  .object (Dict.ofList
    [ ("query", .object request.query.entries), ("params", .object request.params.entries),
      ("headers", .object request.headers.entries), ("body", request.body) ]).entries

open Source in
def decode (source : Source) : Option Request :=
  match fields? ["query", "params", "headers", "body"] source with
  | some [query, params, headers, body] => do
    let query ← defaulted? ∅ (dict? untyped?) query
    let params ← defaulted? ∅ (dict? untyped?) params
    let headers ← defaulted? ∅ (dict? untyped?) headers
    let body ← defaulted? .null untyped? body
    return ⟨query, params, headers, body⟩
  | _ => none

end Request
end WireContract

import WireContract.Schema.Data
import WireContract.Text.Basic

namespace WireContract

inductive StatusKey
  | code (n : Nat)
  | text (s : String)
  deriving DecidableEq

namespace StatusKey

def name : StatusKey → String
  | .code n => toString n
  | .text s => s

def decode (key : Scalar) : Option StatusKey :=
  match key.untyped with
  | some (.number n) => n.unsigned?.map .code
  | some (.string s) => some (.text s)
  | _ => none

end StatusKey

/-- Responses by the texts of their keys; of equal texts the last counts. -/
def Responses.ofList (pairs : List (StatusKey × SchemaNode)) : Dict SchemaNode :=
  Dict.ofList (pairs.map fun (key, node) => (key.name, node))

structure Operation where
  operationId : Option String
  tags : List String
  summary : Option String
  parameters : List SchemaNode
  responses : Dict SchemaNode

inductive Method
  | get
  | put
  | post
  | delete
  | options
  | head
  | patch
  deriving DecidableEq, Repr

namespace Method

def all : List Method := [.get, .put, .post, .delete, .options, .head, .patch]

def name : Method → String
  | .get => "get"
  | .put => "put"
  | .post => "post"
  | .delete => "delete"
  | .options => "options"
  | .head => "head"
  | .patch => "patch"

end Method

structure PathItem where
  operation? : Method → Option Operation
  parameters : List SchemaNode

namespace PathItem

def operations (item : PathItem) : List (Method × Operation) :=
  Method.all.filterMap fun method => (item.operation? method).map fun operation => (method, operation)

end PathItem

structure Document where
  basePath : Option String
  definitions : Dict SchemaNode
  paths : Dict PathItem

namespace Document

def empty : Document := ⟨none, ∅, ∅⟩

instance : EmptyCollection Document := ⟨empty⟩

instance : Inhabited Document := ⟨empty⟩

/-- Drops every slash before another, which leaves one slash of each run. -/
def dropRepeated : List Char → List Char
  | [] => []
  | c :: rest =>
    if c = '/' && rest.head? == some '/' then dropRepeated rest else c :: dropRepeated rest

def collapseSlashes (path : String) : String := String.ofList (dropRepeated path.toList)

def fullUrl (document : Document) (path : String) : String :=
  match document.basePath with
  | some base =>
    if base == "" || base == "/" then collapseSlashes path else collapseSlashes (base ++ path)
  | none => collapseSlashes path

/-- One operation with its full URL and the path item that it stands in. -/
structure Entry where
  url : String
  method : Method
  item : PathItem
  operation : Operation

def entries (document : Document) : List Entry :=
  document.paths.entries.flatMap fun (path, item) =>
    item.operations.map fun (method, operation) => ⟨document.fullUrl path, method, item, operation⟩

end Document

structure Definitions where
  nodes : Dict SchemaNode
  root : String

namespace Definitions

def defaultRoot : String := "#/definitions/"

def nameIn? (root reference : String) : Option String :=
  match Text.afterHead? root.toList reference.toList with
  | some (c :: rest) => some (String.ofList (c :: rest))
  | _ => none

/-- The definition that a reference names, whether it exists or not; any other reference names itself. -/
def nameOf (definitions : Definitions) (reference : String) : String :=
  (nameIn? definitions.root reference).getD reference

def resolve? (definitions : Definitions) (reference : String) : Option SchemaNode :=
  (nameIn? definitions.root reference).bind definitions.nodes.get?

end Definitions
end WireContract

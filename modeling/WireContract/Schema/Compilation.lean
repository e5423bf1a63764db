import WireContract.Lifecycle
import WireContract.Schema.Walk

namespace WireContract

abbrev Folding := CheckModel → Reached → CheckModel

namespace Lifecycle

def folding (lifecycle : Lifecycle Unit) : Folding := fun model reached =>
  ((lifecycle.compile model reached).run ()).1.1

end Lifecycle

namespace SchemaNode

/-- Where the rules of a parameter itself stand; none if its name or location is of no use. -/
def place? (parameter : SchemaNode) : Option (Location × String) := do
  let location ← parameter.location.bind Location.ofName?
  let name ← parameter.name
  let path :=
    match location with
    | .body => BodyPath.wholeBody
    | .query => if parameter.isArray then BodyPath.items name else name
    | _ => name
  return (location, path)

/-- The walk of a parameter at its place. Items of a query array are checked with the keywords of the
array where they have none; the schema of a body is walked from the body. -/
def steps (definitions : Definitions) (parameter : SchemaNode) (location : Location) (path : String) :
    List WalkStep :=
  match parameter.items, parameter.schema with
  | some items, schema =>
    if location == .query && parameter.isArray then Walk.reach path (parameter.overlay items) false
    else Walk.reach path parameter false ++ bodySteps location schema
  | none, schema => Walk.reach path parameter false ++ bodySteps location schema
where
  bodySteps (location : Location) : Option SchemaNode → List WalkStep
    | some schema => if location == .body then Walk.body definitions schema else []
    | none => []

def reached (definitions : Definitions) (parameter : SchemaNode) : List Reached :=
  match parameter.place? with
  | some (location, path) =>
    ((parameter.steps definitions location path).filterMap WalkStep.field?).map
      fun (path, keywords) => ⟨location, path, keywords⟩
  | none => []

end SchemaNode

structure Compiler where
  definitions : Definitions
  fold : Folding

namespace Compiler

def parameter (compiler : Compiler) (model : CheckModel) (parameter : SchemaNode) : CheckModel :=
  (parameter.reached compiler.definitions).foldl compiler.fold model

def parametersOf (item : PathItem) (operation : Operation) : List SchemaNode :=
  item.parameters ++ operation.parameters

def operation (compiler : Compiler) (item : PathItem) (operation : Operation) : CheckModel :=
  (parametersOf item operation).foldl compiler.parameter ∅

def shallow (compiler : Compiler) (model : CheckModel) (location : Location) (path : String)
    (node : SchemaNode) (listed : Bool) : CheckModel :=
  ((Walk.reach path node listed).filterMap WalkStep.field?).foldl
    (fun model (path, keywords) => compiler.fold model ⟨location, path, keywords⟩) model

end Compiler
end WireContract

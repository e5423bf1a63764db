import WireContract.Contract.Description
import WireContract.Contract.Reach
import WireContract.Project.Basic

namespace WireContract

structure Contractor where
  name : String
  version : String
  filter : Selection
  root : String
  fold : Folding

namespace Contractor

def ofProject (project : Project) (fold : Folding) : Contractor :=
  ⟨project.name, project.version, project.filter, project.references.root, fold⟩

def default (fold : Folding) : Contractor := ofProject (.named "api") fold

end Contractor

namespace Endpoint

def defaultId (method url : String) : String := method ++ " " ++ url

def ofEntry (compiler : Compiler) (entry : Document.Entry) : Endpoint :=
  let operation := entry.operation
  let method := entry.method.name
  let check := compiler.operation entry.item operation
  { method := method
    url := entry.url
    operationId := operation.operationId.getD (defaultId method entry.url)
    controller := operation.tags.head?.map Text.upperFirst
    summary := operation.summary
    request := (Compiler.parametersOf entry.item operation).filterMap
      (Field.ofParameter? compiler.definitions check)
    response := Field.ofResponses compiler.definitions operation.responses
    statuses := operation.responses.keys
    check := check }

def referencedTypes (endpoint : Endpoint) : List String :=
  (endpoint.request ++ endpoint.response).filterMap Field.referencedType

end Endpoint

namespace Contract

def modelsOf (compiler : Compiler) (operations : List Endpoint) : List Model :=
  let reached := compiler.definitions.reach [] (operations.flatMap Endpoint.referencedTypes)
  (compiler.definitions.nodes.entries.filter fun (name, _) => reached.contains name).map
    fun (name, node) => Model.ofDefinition compiler name node

def ofDocument (contractor : Contractor) (document : Document) : Contract :=
  let compiler : Compiler := ⟨⟨document.definitions, contractor.root⟩, contractor.fold⟩
  let selected := document.entries.filter fun entry =>
    contractor.filter.selects entry.url entry.method.name
  let operations := selected.map (Endpoint.ofEntry compiler)
  ⟨contractor.name, contractor.version, operations, modelsOf compiler operations⟩

end Contract
end WireContract

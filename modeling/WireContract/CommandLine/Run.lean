import WireContract.CommandLine.Arguments
import WireContract.CommandLine.Help
import WireContract.Contract.Data
import WireContract.Contract.Hash
import WireContract.Json.Reader
import WireContract.Json.Writer
import WireContract.Project.Load
import WireContract.Request.Validation

namespace WireContract

structure Report where
  exitCode : Nat
  output : String
  error : Option String

abbrev Running (m : Type → Type) := ExceptT String m

namespace Running

variable {m : Type → Type} [Monad m]

def orFail {ε α : Type} (message : ε → String) (action : m (Except ε α)) : Running m α := do
  match ← (action : m (Except ε α)) with
  | .ok value => return value
  | .error error => throw (message error)

end Running

namespace Command

variable {m : Type → Type} [Monad m] [Files m]

def writeFile (path text : String) : Running m Unit :=
  Running.orFail FileError.message (Files.write path text)

def startProject (path : String) (name : Option String) : Running m Unit := do
  unless ← (Files.isThere path : m Bool) do
    Running.orFail FileError.message (Files.makeDirectories path)
  let ownName ← Running.orFail FileError.message (Files.fullName path)
  let name ←
    match name.or ownName with
    | some name => pure name
    | none => throw "Could not determine project name from path"
  if ← (Files.isThere (Path.join path Project.fileName) : m Bool) then
    throw ("Directory '" ++ path ++ "' already contains an " ++ Project.fileName)
  writeFile (Path.join path Project.fileName) (Sample.project name)
  writeFile (Path.join path "swagger.yaml") Sample.document
  Running.orFail FileError.message (Files.makeDirectories (Path.join path "requests"))
  writeFile (Path.join path "requests/get-pet.json") Sample.getRequest
  writeFile (Path.join path "requests/add-pet.json") Sample.addRequest
  writeFile (Path.join path ".gitignore") Sample.ignored

def contract (config : String) : Running m (LoadedProject × Contract) := do
  let loaded ← Running.orFail (fun _ => "Failed to load configuration") (LoadedProject.load config)
  let path := loaded.documentPath
  let document ← Running.orFail (fun _ => "Failed to compile " ++ path) (Document.load path)
  return (loaded, loaded.contractOf document)

def operation (contract : Contract) (id : String) : Running m Endpoint :=
  match contract.operation? id with
  | some endpoint => pure endpoint
  | none => throw ("unknown operation '" ++ id ++ "'")

def stored (contract : Contract) : Json :=
  .object [("api", contract.encode), ("hash", .string contract.contentHash)]

def compileProject (config : String) (id : Option String) : Running m String := do
  let (loaded, contract) ← contract config
  match id with
  | some id =>
    let endpoint ← operation contract id
    return endpoint.check.listing.pretty ++ "\n"
  | none =>
    let path := loaded.outputPath
    if let some parent := Path.parent? path then
      Running.orFail FileError.message (Files.makeDirectories parent)
    Running.orFail (fun _ => "Failed to write " ++ path) (Files.write path (stored contract).pretty)
    return ""

def readRequest (text : String) : Option Request :=
  (Json.parse? text).bind fun value => Request.decode (.ofJson value)

def checkRequest (now : Instant) (config id path : String) : Running m Outcome := do
  let (loaded, contract) ← contract config
  let endpoint ← operation contract id
  let text ← Running.orFail (fun _ => "Failed to read request " ++ path) (Files.read path)
  match readRequest text with
  | none => throw "Request file is not a valid request object"
  | some request =>
    return loaded.project.lifecycle.validate now endpoint.check request.normalizeHeaders

def storedHash? (text : String) : Option String := do
  let value ← Json.read? text
  let hash ← value.get? "hash"
  hash.asString?

def freshness (stored : Option String) (contract : Contract) : String :=
  match stored.bind storedHash? with
  | none => "not compiled"
  | some hash => if hash == contract.contentHash then "up to date" else "stale"

def padded (text : String) : String := text ++ String.ofList (List.replicate (7 - text.length) ' ')

def showStatus (config : String) : Running m String := do
  let (loaded, contract) ← contract config
  let output := loaded.outputPath
  let stored ← (Files.read output : m (Except FileError String))
  let operations := contract.operations.map fun endpoint =>
    "  " ++ padded (Text.asciiUpper endpoint.method) ++ " " ++ endpoint.url ++ " (" ++
      endpoint.operationId ++ ")"
  let models := contract.models.map fun model => "  " ++ model.name
  return Sample.lines
    ([ "Project:    " ++ loaded.project.name ++ " " ++ loaded.project.version,
       "Document:   " ++ loaded.documentPath,
       "Operations: " ++ toString contract.operations.length ] ++ operations ++
      ["Models:     " ++ toString contract.models.length] ++ models ++
      ["Compiled:   " ++ output ++ " (" ++ freshness stored.toOption contract ++ ")"])

def exitCode : Outcome → Nat
  | .pass => 0
  | .fail => 1
  | .unauthorized => 2

def perform (now : Instant) (config : String) : Command → Running m (Nat × String)
  | .init path name => do
    startProject path name
    return (0, "")
  | .compile operation => return (0, ← compileProject config operation)
  | .check operation request => do
    let outcome ← checkRequest now config operation request
    return (exitCode outcome, outcome.name ++ "\n")
  | .status => return (0, ← showStatus config)

end Command

namespace Report

variable {m : Type → Type} [Monad m] [Files m]

def ofArguments (now : Instant) (arguments : List String) : m Report := do
  match Invocation.ofArguments? arguments with
  | none => return ⟨2, "", none⟩
  | some .version => return ⟨0, Help.version, none⟩
  | some (.help command) => return ⟨0, Help.text command, none⟩
  | some (.run config command) =>
    match ← (command.perform now config).run with
    | .ok (exitCode, output) => return ⟨exitCode, output, none⟩
    | .error message => return ⟨1, "", some message⟩

end Report
end WireContract

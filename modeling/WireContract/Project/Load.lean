import WireContract.Contract.OfDocument
import WireContract.Files.Basic
import WireContract.Schema.DocumentData
import WireContract.Yaml.Reading

namespace WireContract

inductive LoadError
  | notFound (path : String)
  | unreadable (error : FileError)
  | malformed
  | emptyRoot

namespace LoadError

def message : LoadError → String
  | notFound path => "configuration file not found: " ++ path
  | unreadable error => "IO error: " ++ error.message
  | malformed => "failed to parse configuration"
  | emptyRoot => "invalid configuration: references.prefix must not be empty"

end LoadError

inductive DocumentError
  | notFound (path : String)
  | unreadable (error : FileError)
  | malformed

namespace DocumentError

def message : DocumentError → String
  | notFound path => "definition document not found: " ++ path
  | unreadable error => "IO error: " ++ error.message
  | malformed => "failed to parse definition document"

end DocumentError

namespace Document

def ofYaml? (text : String) : Option Document := (Yaml.read? text).bind decode

def load {m : Type → Type} [Monad m] [Files m] (path : String) : m (Except DocumentError Document) := do
  if ← Files.isThere path then
    match ← Files.read path with
    | .error error => return .error (.unreadable error)
    | .ok text =>
      match ofYaml? text with
      | some document => return .ok document
      | none => return .error .malformed
  else return .error (.notFound path)

end Document

namespace Project

def ofYaml? (text : String) : Option Project := (Yaml.read? text).bind decode

/-- The file of a project and the directory that its paths start from, for a project that is given by
its directory or by its file. -/
def places (path : String) (isDirectory : Bool) : String × String :=
  if isDirectory then (Path.join path fileName, path) else (path, (Path.parent? path).getD ".")

end Project

structure LoadedProject where
  project : Project
  base : String

namespace LoadedProject

def load {m : Type → Type} [Monad m] [Files m] (path : String) : m (Except LoadError LoadedProject) := do
  let (file, base) := Project.places path (← Files.isDirectory path)
  if ← Files.isThere file then
    match ← Files.read file with
    | .error error => return .error (.unreadable error)
    | .ok text =>
      match Project.ofYaml? text with
      | none => return .error .malformed
      | some project =>
        if project.references.root == "" then return .error .emptyRoot
        else return .ok ⟨project, base⟩
  else return .error (.notFound file)

def documentPath (loaded : LoadedProject) : String := Path.join loaded.base loaded.project.document

def outputPath (loaded : LoadedProject) : String := Path.join loaded.base loaded.project.output

def contractOf (loaded : LoadedProject) (document : Document) : Contract :=
  Contract.ofDocument (.ofProject loaded.project loaded.project.lifecycle.folding) document

end LoadedProject
end WireContract

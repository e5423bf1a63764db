import WireContract.Files.Path

namespace WireContract

inductive FileError
  | notFound
  | notDirectory
  | isDirectory
  | exists
  | other (message : String)
  deriving DecidableEq

namespace FileError

def message : FileError → String
  | notFound => "No such file or directory (os error 2)"
  | notDirectory => "Not a directory (os error 20)"
  | isDirectory => "Is a directory (os error 21)"
  | «exists» => "File exists (os error 17)"
  | other message => message

end FileError

class Files (m : Type → Type) where
  isDirectory : (path : String) → m Bool
  isThere : (path : String) → m Bool
  read : (path : String) → m (Except FileError String)
  write : (path text : String) → m (Except FileError Unit)
  makeDirectory : (path : String) → m (Except FileError Unit)
  /-- the last part of the full path of something that is there -/
  fullName : (path : String) → m (Except FileError (Option String))

namespace Files

variable {m : Type → Type} [Monad m] [Files m]

def ensureDirectory (path : String) (instead : FileError → m (Except FileError Unit)) :
    m (Except FileError Unit) := do
  match ← makeDirectory path with
  | .ok _ => return .ok ()
  | .error error =>
    if error == .notFound then instead error
    else if ← isDirectory path then return .ok ()
    else return .error error

/-- Makes a directory and those above it; `fuel` bounds their number. -/
def makeDirectoriesWith : Nat → String → m (Except FileError Unit)
  | 0, _ => pure (.error .notFound)
  | fuel + 1, path =>
    if path == "" then pure (.ok ())
    else
      ensureDirectory path fun _ => do
        match Path.parent? path with
        | none => return .error (.other "failed to create whole tree")
        | some parent =>
          match ← makeDirectoriesWith fuel parent with
          | .error error => return .error error
          | .ok _ => ensureDirectory path fun error => pure (.error error)

def makeDirectories (path : String) : m (Except FileError Unit) :=
  makeDirectoriesWith (path.length + 1) path

end Files
end WireContract

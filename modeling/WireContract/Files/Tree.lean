import WireContract.Dict
import WireContract.Files.Basic

/-!
Trees of files that are held in memory, with a working directory. A tree has no links, and an operation on
it fails only for the shape of the tree: there are no permissions, no full disks and no failing devices.
-/

namespace WireContract

inductive FileEntry
  | file (text : String)
  | directory
  deriving DecidableEq

/-- Files and directories by their full paths without the first slash; the root is always there. -/
structure FileTree where
  entries : Dict FileEntry
  working : List String

namespace FileTree

def empty : FileTree := ⟨∅, []⟩

def key (place : List String) : String := "/".intercalate place

def entryAt? (tree : FileTree) (place : List String) : Option FileEntry :=
  if place.isEmpty then some .directory else tree.entries.get? (key place)

def put (tree : FileTree) (place : List String) (entry : FileEntry) : FileTree :=
  { tree with entries := tree.entries.insert (key place) entry }

theorem entryAt?_put (tree : FileTree) (place other : List String) (entry : FileEntry)
    (below : other ≠ []) :
    (tree.put place entry).entryAt? other =
      if key other = key place then some entry else tree.entryAt? other := by
  simp [entryAt?, put, Dict.get?_insert, below]

/-- Goes from a place along the parts of a path. Every place on the way has to be a directory. -/
def walk (tree : FileTree) (place : List String) : List String → Except FileError (List String)
  | [] => .ok place
  | part :: rest =>
    match tree.entryAt? place with
    | none => .error .notFound
    | some (.file _) => .error .notDirectory
    | some .directory =>
      if part == ".." then walk tree place.dropLast rest
      else if Path.names part then walk tree (place ++ [part]) rest
      else walk tree place rest

def follow (tree : FileTree) (path : String) (parts : List String) : Except FileError (List String) :=
  if path == "" then .error .notFound
  else tree.walk (if Path.isAbsolute path then [] else tree.working) parts

/-- The place that a path leads to; slashes at its end ask for a directory. -/
def place (tree : FileTree) (path : String) : Except FileError (List String) :=
  tree.follow path (Path.parts path)

def newPlace (tree : FileTree) (path : String) : Except FileError (List String) :=
  tree.follow path ((Path.parts path).reverse.dropWhile (· == "")).reverse

def endsInSlash (path : String) : Bool := (Path.parts path).getLast? == some ""

def lookup (tree : FileTree) (path : String) : Except FileError (List String × FileEntry) := do
  let place ← tree.place path
  match tree.entryAt? place with
  | none => .error .notFound
  | some entry => return (place, entry)

def read (tree : FileTree) (path : String) : Except FileError String := do
  match ← tree.lookup path with
  | (_, .file text) => return text
  | (_, .directory) => .error .isDirectory

def write (tree : FileTree) (path text : String) : Except FileError FileTree := do
  let place ← tree.newPlace path
  if tree.entryAt? place == some .directory || endsInSlash path then .error .isDirectory
  else return tree.put place (.file text)

def makeDirectory (tree : FileTree) (path : String) : Except FileError FileTree := do
  let place ← tree.newPlace path
  if (tree.entryAt? place).isSome then .error .exists
  else return tree.put place .directory

def files (tree : FileTree) : List (String × String) :=
  tree.entries.entries.filterMap fun (path, entry) =>
    match entry with
    | .file text => some (path, text)
    | .directory => none

def change (act : FileTree → Except FileError FileTree) : StateM FileTree (Except FileError Unit) := do
  match act (← get) with
  | .ok tree =>
    set tree
    return .ok ()
  | .error error => return .error error

instance : Files (StateM FileTree) where
  isDirectory path := do
    let tree ← get
    match tree.lookup path with
    | .ok (_, .directory) => return true
    | _ => return false
  isThere path := do
    let tree ← get
    match tree.lookup path with
    | .ok _ => return true
    | .error _ => return false
  read path := do
    let tree ← get
    return tree.read path
  write path text := change fun tree => tree.write path text
  makeDirectory path := change fun tree => tree.makeDirectory path
  fullName path := do
    let tree ← get
    return (tree.lookup path).map fun found => found.1.getLast?

end FileTree
end WireContract

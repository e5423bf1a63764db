namespace WireContract
namespace Path

def isAbsolute (path : String) : Bool := path.toList.head? == some '/'

/-- The path behind `base`, parted by one slash; an absolute path stands for itself. -/
def join (base path : String) : String :=
  if isAbsolute path then path
  else if base == "" || base.toList.getLast? == some '/' then base ++ path
  else base ++ "/" ++ path

def parts (path : String) : List String :=
  let body := if isAbsolute path then path.toList.drop 1 else path.toList
  (body.splitOn '/').map String.ofList

def names (part : String) : Bool := part != "" && part != "."

/-- Drops the parts at the end that name nothing; the parts run backwards. A dot at the start of a relative
path is kept. -/
def dropUnnamed (absolute : Bool) : List String → List String
  | [] => []
  | part :: rest =>
    if names part || (part == "." && rest.isEmpty && !absolute) then part :: rest
    else dropUnnamed absolute rest

def parent? (path : String) : Option String :=
  let absolute := isAbsolute path
  match dropUnnamed absolute (parts path).reverse with
  | [] => none
  | _ :: rest =>
    let kept := "/".intercalate (dropUnnamed absolute rest).reverse
    some (if absolute then "/" ++ kept else kept)

end Path
end WireContract

import WireContract.Json.Basic

/-!
Paths into a body. Segments are parted by dots; one that ends in the array mark steps into every item of
an array, and the mark of the whole body stands for the value reached so far.
-/

namespace WireContract
namespace BodyPath

def wholeBody : String := "$body$"

def arrayMark : String := "[]"

/-- The path of `key` below `parent`; an empty parent is the body itself. -/
def join (parent key : String) : String := if parent == "" then key else parent ++ "." ++ key

def items (path : String) : String := path ++ arrayMark

def segments (path : String) : List String := (path.toList.splitOn '.').map String.ofList

def arrayKey? (segment : String) : Option String :=
  (arrayMark.toList.isSuffixOf? segment.toList).map String.ofList

end BodyPath

namespace Json

def isFalsy : Json → Bool
  | .null => true
  | .bool b => !b
  | .string s => s.isEmpty
  | .number n => n.toFloat == 0.0
  | _ => false

end Json

namespace BodyPath

/-- The value that the last segment of a path leads to, `null` where there is none. -/
def last (segment : String) (current : Json) : Json :=
  if segment == wholeBody then current
  else (current.get? ((arrayKey? segment).getD segment)).getD .null

/-- Every value that a path leads to, in document order. A step that is missing, falsy or not an array
where one is needed leads nowhere. -/
def resolve : List String → Json → List Json
  | [], _ => []
  | segment :: rest, current =>
    if current.isFalsy then []
    else if rest.isEmpty then [last segment current]
    else
      match arrayKey? segment with
      | some key =>
        match current.get? key with
        | some (.array items) => items.flatMap (resolve rest)
        | _ => []
      | none =>
        match current.get? segment with
        | some next => resolve rest next
        | none => []

end BodyPath
end WireContract

import WireContract.Text.Basic

namespace WireContract
namespace Text

def isSnakeChar (c : Char) : Bool := c.isAlphanum || c == '_'

def lowerHead : List Char → List Char
  | [] => []
  | c :: rest => c.toLower :: rest

def upperHead : List Char → List Char
  | [] => []
  | c :: rest => c.toUpper :: rest

/-- Joins the pieces between underscores, the first begun in lower case and the others in upper case.
Names with other characters are left alone. -/
def lowerCamel (name : String) : String :=
  if name.toList.all isSnakeChar then
    match (name.toList.splitOn '_').filter (!·.isEmpty) with
    | [] => ""
    | first :: rest => String.ofList (lowerHead first ++ rest.flatMap upperHead)
  else name

end Text
end WireContract

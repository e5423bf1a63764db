import WireContract.Unicode.Property
import WireContract.Unicode.Uppercase

namespace WireContract
namespace Text

def isBlank (c : Char) : Bool := Unicode.blank.contains c

def trimStart (text : List Char) : List Char := text.dropWhile isBlank

def trim (text : List Char) : List Char := (trimStart (trimStart text).reverse).reverse

def asciiLower (text : String) : String := String.ofList (text.toList.map Char.toLower)

def upperForms : List (Nat × List Char) :=
  ((Unicode.upperForms.split Char.isWhitespace).toStringList.filter (· != "")).map fun row =>
    match (row.split (· == ':')).toStringList with
    | [code, forms] =>
      (Unicode.hexadecimal code,
        (forms.split (· == ',')).toStringList.map fun form => Char.ofNat (Unicode.hexadecimal form))
    | _ => (0, [])

def upper (c : Char) : List Char :=
  if c.toNat < 128 then [c.toUpper]
  else
    match upperForms.find? fun row => row.1 == c.toNat with
    | some (_, form) => form
    | none => [c]

def upperFirst (text : String) : String :=
  match text.toList with
  | [] => ""
  | first :: rest => String.ofList (upper first ++ rest)

def asciiUpper (text : String) : String := String.ofList (text.toList.map Char.toUpper)

/-- What follows `head` at the start of a text. -/
abbrev afterHead? (head text : List Char) : Option (List Char) := head.isPrefixOf? text

def sameIgnoringCase (a b : String) : Bool := asciiLower a == asciiLower b

end Text
end WireContract

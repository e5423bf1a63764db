import WireContract.Text.Basic
import WireContract.Decimal.Reading

namespace WireContract
namespace Text

def exponent? (text : List Char) : Option Int :=
  match text with
  | mark :: rest =>
    if mark = 'e' ∨ mark = 'E' then
      let (negative, rest) := match rest with
        | '-' :: rest => (true, rest)
        | '+' :: rest => (false, rest)
        | rest => (false, rest)
      match rest.takeWhile Decimal.isDigit with
      | [] => none
      | digits =>
        let size : Int := Decimal.natOfDigits digits
        some (if negative then -size else size)
    else none
  | [] => none

def magnitude? (text : List Char) : Option Float :=
  if "Infinity".toList.isPrefixOf text then some Decimal.infinity
  else
    let whole := text.takeWhile Decimal.isDigit
    let (places, rest) := match text.drop whole.length with
      | '.' :: rest => (rest.takeWhile Decimal.isDigit, rest.dropWhile Decimal.isDigit)
      | rest => ([], rest)
    if whole.isEmpty && places.isEmpty then none
    else
      let power := (exponent? rest).getD 0
      some (Decimal.nearestFloat (Decimal.natOfDigits (whole ++ places)) (power - places.length))

def leadingNumber? (text : String) : Option Float :=
  match trimStart text.toList with
  | '-' :: rest => (magnitude? rest).map fun x => -x
  | '+' :: rest => magnitude? rest
  | rest => magnitude? rest

end Text
end WireContract

import WireContract.Text.LeadingNumber

/-!
The number at the start of a text, found on its bytes: an offset moves over the UTF-8 form of the text, and
the text is cut there. A cut that is not between two characters is told apart from there being no number.
-/

namespace WireContract
namespace Text

def utf8 (text : List Char) : List UInt8 := text.flatMap String.utf8EncodeChar

/-- The text before a byte offset and the text after it, if the offset is between two characters. -/
def cutAt? : List Char → Nat → Option (List Char × List Char)
  | text, 0 => some ([], text)
  | [], _ + 1 => none
  | c :: rest, offset =>
    if c.utf8Size ≤ offset then
      (cutAt? rest (offset - c.utf8Size)).map fun (front, back) => (c :: front, back)
    else none

def isDigitByte (byte : UInt8) : Bool := decide (48 ≤ byte) && decide (byte ≤ 57)

/-- Whether one of the characters, which are of one byte each, stands at an offset. -/
def standsAt (bytes : List UInt8) (offset : Nat) (chars : List Char) : Bool :=
  bytes[offset]?.any fun byte => chars.any fun c => byte == c.toNat.toUInt8

def digitsFrom? (bytes : List UInt8) (offset : Nat) : Option Nat :=
  if offset ≤ bytes.length then some ((bytes.drop offset).takeWhile isDigitByte).length else none

def exponentEnd? (bytes : List UInt8) (offset : Nat) : Option Nat :=
  if standsAt bytes offset ['e', 'E'] then
    let first := if standsAt bytes (offset + 1) ['+', '-'] then offset + 2 else offset + 1
    (digitsFrom? bytes first).map fun count => if 0 < count then first + count else offset
  else some offset

def decimalEnd? (bytes : List UInt8) (offset : Nat) : Option (Option Nat) := do
  let whole ← digitsFrom? bytes offset
  let point := offset + whole
  if standsAt bytes point ['.'] then
    let places ← digitsFrom? bytes (point + 1)
    if whole + places = 0 then return none
    else return some (← exponentEnd? bytes (point + 1 + places))
  else if whole = 0 then return none
  else return some (← exponentEnd? bytes point)

/-- The text of the number that a text starts with; none within, if there is no number, and none at all if
the text would have to be cut where it cannot be. -/
def numberSpan? (text : List Char) : Option (Option (List Char)) := do
  let bytes := utf8 text
  let start := if standsAt bytes 0 ['+', '-'] then 1 else 0
  let (_, unsigned) ← cutAt? text start
  if "Infinity".toList.isPrefixOf unsigned then
    let (span, _) ← cutAt? text (start + "Infinity".length)
    return some span
  else
    match ← decimalEnd? bytes start with
    | none => return none
    | some stop =>
      let (span, _) ← cutAt? text stop
      return some span

end Text
end WireContract

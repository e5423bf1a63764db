/-!
Bytes as UTF-8 text. Each longest piece that could start a character but does not complete one becomes
one U+FFFD.
-/

namespace WireContract
namespace Text

/-- What the first byte of a character says: how many bytes follow, its own bits, and the range of the
second byte. -/
def leadByte? (byte : Nat) : Option (Nat × Nat × Nat × Nat) :=
  if byte < 0xC2 then none
  else if byte < 0xE0 then some (1, byte - 0xC0, 0x80, 0xBF)
  else if byte = 0xE0 then some (2, 0, 0xA0, 0xBF)
  else if byte = 0xED then some (2, 0xD, 0x80, 0x9F)
  else if byte < 0xF0 then some (2, byte - 0xE0, 0x80, 0xBF)
  else if byte = 0xF0 then some (3, 0, 0x90, 0xBF)
  else if byte < 0xF4 then some (3, byte - 0xF0, 0x80, 0xBF)
  else if byte = 0xF4 then some (3, 4, 0x80, 0x8F)
  else none

/-- Where a decoder stands: between characters, or with `left` bytes to come, the next of them from
`low` to `high`. -/
inductive Utf8State
  | between
  | within (left code low high : Nat)

def startByte (byte : Nat) : List Char × Utf8State :=
  if byte < 0x80 then ([Char.ofNat byte], .between)
  else
    match leadByte? byte with
    | some (left, code, low, high) => ([], .within left code low high)
    | none => (['\ufffd'], .between)

def decodeFrom : Utf8State → List Nat → List Char
  | .between, [] => []
  | .within _ _ _ _, [] => ['\ufffd']
  | .between, byte :: rest =>
    let (chars, state) := startByte byte
    chars ++ decodeFrom state rest
  | .within left code low high, byte :: rest =>
    if low ≤ byte ∧ byte ≤ high then
      let code := code * 64 + byte % 64
      if left ≤ 1 then Char.ofNat code :: decodeFrom .between rest
      else decodeFrom (.within (left - 1) code 0x80 0xBF) rest
    else
      let (chars, state) := startByte byte
      '\ufffd' :: (chars ++ decodeFrom state rest)

def decodeUtf8 (bytes : List Nat) : List Char := decodeFrom .between bytes

end Text
end WireContract

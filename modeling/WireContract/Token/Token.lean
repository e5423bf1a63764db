import WireContract.Json.Reader
import WireContract.Text.Utf8
import WireContract.Token.Base64
import WireContract.Token.Timestamp

/-!
Auth tokens. The header carries base64, with `-` for `/`, of a text that somewhere holds an object with
a `token` object in it; the token's `expires_at` says when it stops being accepted.
-/

namespace WireContract
namespace Token

def isBlank (c : Char) : Bool := Text.isBlank c

/-- The symbols of a raw token: blanks dropped, `-` read as `/`. -/
def symbols (raw : String) : List Char :=
  (raw.toList.filter fun c => !isBlank c).map fun c => if c = '-' then '/' else c

def afterOpening? (text : List Char) : Option (List Char) :=
  match text with
  | '\x7b' :: rest =>
    match Text.afterHead? "\"token\"".toList (Text.trimStart rest) with
    | none => none
    | some rest =>
      match Text.trimStart rest with
      | ':' :: '\x7b' :: rest => some rest
      | _ => none
  | _ => none

def afterClosing? (text : List Char) : Option (List Char) :=
  match text with
  | '\x7d' :: rest =>
    match Text.trimStart rest with
    | '\x7d' :: rest => some rest
    | _ => none
  | _ => none

def afterLastClosing? : List Char → Option (List Char)
  | [] => none
  | c :: rest =>
    match afterLastClosing? rest with
    | some after => some after
    | none => afterClosing? (c :: rest)

/-- The first token object of a text, up to the last braces that can close it. -/
def object? : List Char → Option (List Char)
  | [] => none
  | c :: rest =>
    match (afterOpening? (c :: rest)).bind afterLastClosing? with
    | some after => some ((c :: rest).take (rest.length + 1 - after.length))
    | none => object? rest

def decode? (raw : String) : Option Json := do
  let bytes ← Base64.decode? (symbols raw)
  let found ← object? (Text.decodeUtf8 bytes)
  let wrapper ← Json.read? (String.ofList found)
  let token ← wrapper.get? "token"
  if token.isNull then none else some token

def expiry? (raw : String) : Option Instant := do
  let token ← decode? raw
  let expiry ← token.get? "expires_at"
  Instant.ofJson? expiry

def isValid (raw : String) (now : Instant) : Bool :=
  match expiry? raw with
  | some expiry => now.before expiry
  | none => false

end Token
end WireContract

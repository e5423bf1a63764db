import WireContract.Unicode.Property

namespace WireContract
namespace Text

def hexDigits (n : Nat) : List Char := Nat.toDigits 16 n

def codeEscape (c : Char) : List Char :=
  ['\\', 'u', '\x7b'] ++ hexDigits c.toNat ++ ['\x7d']

def debugEscape (c : Char) : List Char :=
  match c with
  | '\x00' => ['\\', '0']
  | '\t' => ['\\', 't']
  | '\r' => ['\\', 'r']
  | '\n' => ['\\', 'n']
  | '"' => ['\\', '"']
  | '\\' => ['\\', '\\']
  | c =>
    if c.toNat < 127 && 32 ≤ c.toNat then [c]
    else if Unicode.extending.contains c || Unicode.invisible.contains c then codeEscape c
    else [c]

def quoted (text : String) : String :=
  String.ofList ('"' :: (text.toList.flatMap debugEscape ++ ['"']))

end Text
end WireContract

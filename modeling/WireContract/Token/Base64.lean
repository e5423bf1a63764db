/-!
Reading base64 in the standard alphabet. Padding may be left out, and bits after the last whole byte
are ignored.
-/

namespace WireContract
namespace Base64

def symbol? (c : Char) : Option Nat :=
  if 'A' ≤ c ∧ c ≤ 'Z' then some (c.toNat - 65)
  else if 'a' ≤ c ∧ c ≤ 'z' then some (c.toNat - 71)
  else if '0' ≤ c ∧ c ≤ '9' then some (c.toNat + 4)
  else if c = '+' then some 62
  else if c = '/' then some 63
  else none

/-- The last group, of one to four symbols and padding: two symbols are one byte, three are two. -/
def lastBytes? (group : List Char) : Option (List Nat) :=
  match group with
  | [a, b, c, d] =>
    match symbol? a, symbol? b, symbol? c, symbol? d with
    | some a, some b, some c, some d =>
      some [a * 4 + b / 16, b % 16 * 16 + c / 4, c % 4 * 64 + d]
    | some _, some _, some _, none => if d = '=' then lastBytes? [a, b, c] else none
    | some _, some _, none, none => if c = '=' ∧ d = '=' then lastBytes? [a, b] else none
    | _, _, _, _ => none
  | [a, b, c] =>
    match symbol? a, symbol? b, symbol? c with
    | some a, some b, some c => some [a * 4 + b / 16, b % 16 * 16 + c / 4]
    | some _, some _, none => if c = '=' then lastBytes? [a, b] else none
    | _, _, _ => none
  | [a, b] =>
    match symbol? a, symbol? b with
    | some a, some b => some [a * 4 + b / 16]
    | _, _ => none
  | _ => none
termination_by group.length

def decode? : List Char → Option (List Nat)
  | [] => some []
  | a :: b :: c :: d :: e :: rest =>
    match symbol? a, symbol? b, symbol? c, symbol? d with
    | some a, some b, some c, some d =>
      (decode? (e :: rest)).map fun bytes =>
        (a * 4 + b / 16) :: (b % 16 * 16 + c / 4) :: (c % 4 * 64 + d) :: bytes
    | _, _, _, _ => none
  | group => lastBytes? group

end Base64
end WireContract

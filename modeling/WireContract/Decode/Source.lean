import WireContract.Json.Basic

/-!
Values as typed decoding sees them, whatever notation they come from: a scalar with all the readings
its notation gives it, a list, or a record.
-/

namespace WireContract

structure Scalar where
  /-- where a text is declared -/
  text : Option String
  /-- where a truth value is declared -/
  bool : Option Bool
  /-- where an unsigned 64-bit integer is declared -/
  natural : Option Nat
  /-- where a double is declared -/
  float : Option Float
  /-- where any value may stand -/
  untyped : Option Json
  /-- for an optional value: whether it is left out; none if it is ill-formed -/
  missing : Option Bool
  /-- whether it may stand for an empty record, map or list -/
  hollow : Bool

namespace Scalar

def unreadable : Scalar := ⟨none, none, none, none, none, some false, false⟩

end Scalar

/-- `closed` values can be read as what is declared, but not where any value may stand; a `positional` list
may stand for a record, its items for the fields in order. -/
inductive Source
  | scalar (s : Scalar)
  | list (positional closed : Bool) (items : List Source)
  | record (closed : Bool) (pairs : List (Scalar × Source))

namespace Source

def unreadable : Source := .scalar .unreadable

def scalarOfJson (value : Json) : Scalar :=
  let plain : Scalar := ⟨none, none, none, none, some value, some false, false⟩
  match value with
  | .null => { plain with missing := some true }
  | .bool b => { plain with bool := some b }
  | .number n => { plain with natural := n.unsigned?, float := some n.toFloat }
  | .string s => { plain with text := some s }
  | _ => plain

def keyOfJson (key : String) : Scalar := scalarOfJson (.string key)

mutual

def ofJson : Json → Source
  | .array items => .list true false (ofJsonItems items)
  | .object members => .record false (ofJsonMembers members)
  | value => .scalar (scalarOfJson value)

def ofJsonItems : List Json → List Source
  | [] => []
  | item :: rest => ofJson item :: ofJsonItems rest

def ofJsonMembers : List (String × Json) → List (Scalar × Source)
  | [] => []
  | (key, value) :: rest => (keyOfJson key, ofJson value) :: ofJsonMembers rest

end

end Source
end WireContract

import WireContract.Dict
import WireContract.Json.Basic
import WireContract.Decimal.Reading

/-!
Reading data text. An object keeps the last of equal keys; arrays and objects nest to 127 levels; an
integer too large for 64 bits is read as a double, and a number too large for a double is refused.
-/

namespace WireContract
namespace Json
namespace Reader

def isSpace (c : Char) : Bool := c == ' ' || c == '\t' || c == '\n' || c == '\r'

def skip (text : List Char) : List Char := text.dropWhile isSpace

def hexValue? (c : Char) : Option Nat :=
  if '0' ≤ c ∧ c ≤ '9' then some (c.toNat - 48)
  else if 'a' ≤ c ∧ c ≤ 'f' then some (c.toNat - 87)
  else if 'A' ≤ c ∧ c ≤ 'F' then some (c.toNat - 55)
  else none

/-- Where in a string literal the reader stands. After the code of a leading surrogate the code of a
trailing one must follow. -/
inductive Place
  | plain
  | escape
  | code (left : Nat) (value : Nat) (lead : Option Nat)
  | trailSlash (lead : Nat)
  | trailMark (lead : Nat)

def escaped? (c : Char) : Option Char :=
  match c with
  | '"' => some '"'
  | '\\' => some '\\'
  | '/' => some '/'
  | 'b' => some '\x08'
  | 'f' => some '\x0c'
  | 'n' => some '\n'
  | 'r' => some '\r'
  | 't' => some '\t'
  | _ => none

def codePoint? (value : Nat) (lead : Option Nat) : Option (Char ⊕ Nat) :=
  match lead with
  | some high =>
    if 0xDC00 ≤ value ∧ value ≤ 0xDFFF then
      some (.inl (Char.ofNat (0x10000 + (high - 0xD800) * 0x400 + (value - 0xDC00))))
    else none
  | none =>
    if 0xD800 ≤ value ∧ value ≤ 0xDBFF then some (.inr value)
    else if 0xDC00 ≤ value ∧ value ≤ 0xDFFF then none
    else some (.inl (Char.ofNat value))

def stringRest : Place → List Char → List Char → Option (String × List Char)
  | _, _, [] => none
  | .plain, done, c :: rest =>
    if c = '"' then some (String.ofList done.reverse, rest)
    else if c = '\\' then stringRest .escape done rest
    else if c.toNat < 32 then none
    else stringRest .plain (c :: done) rest
  | .escape, done, c :: rest =>
    if c = 'u' then stringRest (.code 3 0 none) done rest
    else match escaped? c with
      | some plain => stringRest .plain (plain :: done) rest
      | none => none
  | .code left value lead, done, c :: rest =>
    match hexValue? c, left with
    | none, _ => none
    | some digit, left + 1 => stringRest (.code left (value * 16 + digit) lead) done rest
    | some digit, 0 =>
      match codePoint? (value * 16 + digit) lead with
      | none => none
      | some (.inl char) => stringRest .plain (char :: done) rest
      | some (.inr high) => stringRest (.trailSlash high) done rest
  | .trailSlash high, done, c :: rest =>
    if c = '\\' then stringRest (.trailMark high) done rest else none
  | .trailMark high, done, c :: rest =>
    if c = 'u' then stringRest (.code 3 0 (some high)) done rest else none

def digits (text : List Char) : List Char × List Char :=
  (text.takeWhile Decimal.isDigit, text.dropWhile Decimal.isDigit)

/-- As many leading digits as stay below `2 ^ 64`, their value, and the digits left over. -/
def significand : Nat → List Char → Nat × List Char
  | value, [] => (value, [])
  | value, c :: rest =>
    let next := value * 10 + Decimal.digitValue c
    if next < Nat.pow 2 64 then significand next rest else (value, c :: rest)

def exponent? (text : List Char) : Option (Option Int × List Char) :=
  match text with
  | c :: rest =>
    if c = 'e' ∨ c = 'E' then
      let (negative, rest) := match rest with
        | '-' :: rest => (true, rest)
        | '+' :: rest => (false, rest)
        | rest => (false, rest)
      let (power, rest) := digits rest
      if power.isEmpty then none
      else
        let size := Decimal.natOfDigits power
        some (some (if negative then -(size : Int) else size), rest)
    else some (none, text)
  | [] => some (none, [])

def fraction? (text : List Char) : Option (Option (List Char) × List Char) :=
  match text with
  | '.' :: rest =>
    let (places, rest) := digits rest
    if places.isEmpty then none else some (some places, rest)
  | text => some (none, text)

def floatOf? (negative : Bool) (whole places : List Char) (power : Int) : Option Number :=
  let (kept, dropped) := significand 0 whole
  let (kept, unread) := significand kept places
  let used := places.length - unread.length
  let scale : Int := (dropped.length : Int) - used + power
  (Decimal.scaledFloat? (UInt64.ofNat kept) scale).map fun x =>
    .float (if negative then -x else x)

def integerOf? (negative : Bool) (whole : List Char) : Option Number :=
  let size := Decimal.natOfDigits whole
  if Nat.pow 2 64 ≤ size then floatOf? negative whole [] 0
  else if !negative then some (.integer size)
  else if size = 0 ∨ Nat.pow 2 63 < size then some (.float (-(UInt64.ofNat size).toFloat))
  else some (.integer (-size))

def number? (text : List Char) : Option (Number × List Char) :=
  let (negative, text) := match text with
    | '-' :: rest => (true, rest)
    | text => (false, text)
  let (whole, rest) := digits text
  match whole with
  | [] => none
  | '0' :: _ :: _ => none
  | _ =>
    match fraction? rest with
    | none => none
    | some (places, rest) =>
      match exponent? rest with
      | none => none
      | some (power, rest) =>
        let number := match places, power with
          | none, none => integerOf? negative whole
          | _, _ => floatOf? negative whole (places.getD []) (power.getD 0)
        number.map (·, rest)

def literal (word : String) (text : List Char) : Option (List Char) :=
  if word.toList.isPrefixOf text then some (text.drop word.length) else none

mutual

/-- Reads one value after blanks; `depth` arrays or objects may still be entered. -/
def value : Nat → Nat → List Char → Option (Json × List Char)
  | 0, _, _ => none
  | fuel + 1, depth, text =>
    match skip text with
    | [] => none
    | c :: rest =>
      if c = '"' then (stringRest .plain [] rest).map fun (s, rest) => (.string s, rest)
      else if c = '[' then
        match depth with
        | 0 => none
        | depth + 1 =>
          match skip rest with
          | ']' :: rest => some (.array [], rest)
          | rest => (items fuel depth rest).map fun (list, rest) => (.array list, rest)
      else if c = '\x7b' then
        match depth with
        | 0 => none
        | depth + 1 =>
          match skip rest with
          | '\x7d' :: rest => some (.object [], rest)
          | rest =>
            (members fuel depth rest).map fun (list, rest) => (.object list, rest)
      else if c = 'n' then (literal "ull" rest).map (.null, ·)
      else if c = 't' then (literal "rue" rest).map (.bool true, ·)
      else if c = 'f' then (literal "alse" rest).map (.bool false, ·)
      else (number? (c :: rest)).map fun (n, rest) => (.number n, rest)

def items : Nat → Nat → List Char → Option (List Json × List Char)
  | 0, _, _ => none
  | fuel + 1, depth, text =>
    match value fuel depth text with
    | none => none
    | some (item, rest) =>
      match skip rest with
      | ',' :: rest => (items fuel depth rest).map fun (list, rest) => (item :: list, rest)
      | ']' :: rest => some ([item], rest)
      | _ => none

def members : Nat → Nat → List Char → Option (List (String × Json) × List Char)
  | 0, _, _ => none
  | fuel + 1, depth, text =>
    match skip text with
    | '"' :: rest =>
      match stringRest .plain [] rest with
      | none => none
      | some (key, rest) =>
        match skip rest with
        | ':' :: rest =>
          match value fuel depth rest with
          | none => none
          | some (item, rest) =>
            match skip rest with
            | ',' :: rest =>
              (members fuel depth rest).map fun (list, rest) => ((key, item) :: list, rest)
            | '\x7d' :: rest => some ([(key, item)], rest)
            | _ => none
        | _ => none
    | _ => none

end

end Reader

def maxDepth : Nat := 127

def parse? (text : String) : Option Json :=
  let chars := text.toList
  match Reader.value (2 * chars.length + 1) maxDepth chars with
  | some (value, rest) => if (Reader.skip rest).isEmpty then some value else none
  | none => none

mutual

/-- The value with the members of every object in key order; of equal keys the last counts. -/
def ordered : Json → Json
  | .array items => .array (orderedItems items)
  | .object members => .object (Dict.ofList (orderedMembers members)).entries
  | value => value

def orderedItems : List Json → List Json
  | [] => []
  | item :: rest => ordered item :: orderedItems rest

def orderedMembers : List (String × Json) → List (String × Json)
  | [] => []
  | (key, value) :: rest => (key, ordered value) :: orderedMembers rest

end

def read? (text : String) : Option Json := (parse? text).map ordered

end Json
end WireContract

import WireContract.Yaml.Tree
import WireContract.Decode.Source
import WireContract.Decimal.Reading

/-!
What the scalars of a YAML text mean. Plain words resolve to null, truth values, integers and floats;
tags of the core schema ask for one of these; aliases stand for the value they name.
-/

namespace WireContract
namespace Yaml

def coreTag (name : String) : String := "tag:yaml.org,2002:" ++ name

def isNull (text : String) : Bool := ["null", "Null", "NULL", "~"].contains text

def bool? (text : String) : Option Bool :=
  if ["true", "True", "TRUE"].contains text then some true
  else if ["false", "False", "FALSE"].contains text then some false
  else none

def digits? (radix : Nat) (text : List Char) : Option Nat :=
  let value (c : Char) : Option Nat :=
    if !isHex c then none
    else
      let value := hexValue [c]
      if value < radix then some value else none
  if text.isEmpty then none
  else text.foldl (fun total c =>
    match total, value c with
    | some total, some digit => some (total * radix + digit)
    | _, _ => none) (some 0)

/-- A zero followed by more digits, with any sign, is a text and no number. -/
def isPaddedDigits (text : List Char) : Bool :=
  let digits := match text with
    | '-' :: rest => rest
    | '+' :: rest => rest
    | rest => rest
  match digits with
  | '0' :: c :: rest => (c :: rest).all Decimal.isDigit
  | _ => false

def radixDigits? (text : List Char) : Option Nat :=
  match text with
  | '0' :: 'x' :: rest => digits? 16 rest
  | '0' :: 'o' :: rest => digits? 8 rest
  | '0' :: 'b' :: rest => digits? 2 rest
  | _ => none

def natural? (text : List Char) : Option Nat :=
  let unsigned := match text with
    | '+' :: rest => rest
    | rest => rest
  match radixDigits? unsigned with
  | some n => some n
  | none => if isPaddedDigits text then none else digits? 10 unsigned

def negative? (text : List Char) : Option Nat :=
  match text with
  | '-' :: rest =>
    match radixDigits? rest with
    | some n => some n
    | none => if isPaddedDigits text then none else digits? 10 rest
  | _ => none

inductive IntegerReading
  | exact (n : Int)
  | tooWide
  | notOne

/-- Integers beyond 64 bits are refused, and beyond 128 bits are no integers. -/
def integer (text : List Char) : IntegerReading :=
  match natural? text with
  | some n => if n < Nat.pow 2 64 then .exact n else if n < Nat.pow 2 128 then .tooWide else .notOne
  | none =>
    match negative? text with
    | some n => if n ≤ Nat.pow 2 63 then .exact (-n) else if n ≤ Nat.pow 2 127 then .tooWide else .notOne
    | none => .notOne

def decimal? (text : List Char) : Option Float :=
  let (negated, body) := match text with
    | '-' :: rest => (true, rest)
    | '+' :: rest => (false, rest)
    | rest => (false, rest)
  let whole := body.takeWhile Decimal.isDigit
  let (places, rest) := match body.drop whole.length with
    | '.' :: rest => (rest.takeWhile Decimal.isDigit, rest.dropWhile Decimal.isDigit)
    | rest => ([], rest)
  let power : Option Int := match rest with
    | [] => some 0
    | c :: rest =>
      if c == 'e' || c == 'E' then
        let (down, digits) := match rest with
          | '-' :: rest => (true, rest)
          | '+' :: rest => (false, rest)
          | rest => (false, rest)
        if digits.isEmpty || !digits.all Decimal.isDigit then none
        else
          let size : Int := Decimal.natOfDigits digits
          some (if down then -size else size)
      else none
  match power with
  | none => none
  | some power =>
    if whole.isEmpty && places.isEmpty then none
    else
      let x := Decimal.nearestFloat (Decimal.natOfDigits (whole ++ places)) (power - places.length)
      some (if negated then -x else x)

def float? (text : String) : Option Float :=
  let chars := text.toList
  let unsigned := match chars with
    | '+' :: rest => rest
    | rest => rest
  let doubled := match chars with
    | '+' :: '+' :: _ => true
    | '+' :: '-' :: _ => true
    | _ => false
  if doubled then none
  else if [".inf", ".Inf", ".INF"].contains (String.ofList unsigned) then some Decimal.infinity
  else if ["-.inf", "-.Inf", "-.INF"].contains text then some (-Decimal.infinity)
  else if [".nan", ".NaN", ".NAN"].contains text then some (0.0 / 0.0)
  else
    match decimal? unsigned with
    | some x => if x.isFinite then some x else none
    | none => none

def resolve (text : String) : Option Json :=
  if text.isEmpty || isNull text then some .null
  else
    match bool? text with
    | some b => some (.bool b)
    | none =>
      match integer text.toList with
      | .exact n => some (.number (.integer n))
      | .tooWide => none
      | .notOne =>
        match if isPaddedDigits text.toList then none else float? text with
        | some x => some (Json.ofFloat x)
        | none => some (.string text)

def isLocal (tag : Option String) : Bool :=
  match tag with
  | some tag => tag.toList.head? == some '!'
  | none => false

def untyped (tag : Option String) (text : String) (style : ScalarStyle) : Option Json :=
  match tag with
  | none => if style == .plain then resolve text else some (.string text)
  | some tag =>
    if isLocal (some tag) then none
    else if tag == coreTag "bool" then (bool? text).map .bool
    else if tag == coreTag "int" then
      match integer text.toList with
      | .exact n => some (.number (.integer n))
      | _ => none
    else if tag == coreTag "float" then (float? text).map Json.ofFloat
    else if tag == coreTag "null" then if isNull text then some .null else none
    else some (.string text)

def missing (tag : Option String) (text : String) (style : ScalarStyle) : Option Bool :=
  if style != .plain then some false
  else
    match tag with
    | some tag =>
      if tag == coreTag "null" then if isNull text then some true else none else some false
    | none => some (text.isEmpty || isNull text)

def scalarOf (tag : Option String) (text : String) (style : ScalarStyle) : Scalar :=
  let typed (name : String) : Bool :=
    style == .plain || (style == .literal && tag == some (coreTag name))
  { text := some text
    bool := if typed "bool" then bool? text else none
    natural := if typed "int" then (natural? text.toList).filter (· < Nat.pow 2 64) else none
    float := if typed "float" then float? text else none
    untyped := untyped tag text style
    missing := missing tag text style
    hollow := text.isEmpty && style == .plain }

/-- The anchors met so far: the number of each name, and every value under its number, the one that
started last first. -/
structure Anchors where
  numbers : List (String × Nat)
  started : Nat
  values : List (Nat × Nat × Tree)

namespace Anchors

def start (anchors : Anchors) (name : String) : Nat × Anchors :=
  let number := anchors.numbers.length
  let others := anchors.numbers.filter fun entry => entry.1 != name
  (number, ⟨(name, number) :: others, anchors.started + 1, anchors.values⟩)

def number? (anchors : Anchors) (name : String) : Option Nat :=
  (anchors.numbers.find? fun entry => entry.1 == name).map (·.2)

end Anchors

mutual

/-- Replaces the name of every alias by the number its anchor has there, and notes the value of each
anchor; an alias needs an anchor before it. -/
def number (anchors : Anchors) : Tree → Option (Tree × Anchors)
  | .alias name => (anchors.number? name).map fun n => (.alias (toString n), anchors)
  | .scalar properties text style =>
    let tree := Tree.scalar properties text style
    match properties.anchor with
    | none => some (tree, anchors)
    | some name =>
      let (n, started) := anchors.start name
      some (tree, { started with values := (n, anchors.started, tree) :: started.values })
  | .sequence properties items =>
    match properties.anchor with
    | none =>
      (numberItems anchors items).map fun (items, anchors) => (.sequence properties items, anchors)
    | some name =>
      let (n, started) := anchors.start name
      (numberItems started items).map fun (items, after) =>
        let tree := Tree.sequence properties items
        (tree, { after with values := (n, anchors.started, tree) :: after.values })
  | .mapping properties pairs =>
    match properties.anchor with
    | none =>
      (numberPairs anchors pairs).map fun (pairs, anchors) => (.mapping properties pairs, anchors)
    | some name =>
      let (n, started) := anchors.start name
      (numberPairs started pairs).map fun (pairs, after) =>
        let tree := Tree.mapping properties pairs
        (tree, { after with values := (n, anchors.started, tree) :: after.values })

def numberItems (anchors : Anchors) : List Tree → Option (List Tree × Anchors)
  | [] => some ([], anchors)
  | item :: rest =>
    match number anchors item with
    | none => none
    | some (item, anchors) =>
      (numberItems anchors rest).map fun (items, anchors) => (item :: items, anchors)

def numberPairs (anchors : Anchors) : List (Tree × Tree) → Option (List (Tree × Tree) × Anchors)
  | [] => some ([], anchors)
  | (key, value) :: rest =>
    match number anchors key with
    | none => none
    | some (key, anchors) =>
      match number anchors value with
      | none => none
      | some (value, anchors) =>
        (numberPairs anchors rest).map fun (pairs, anchors) => ((key, value) :: pairs, anchors)

end

def Anchors.value? (anchors : Anchors) (name : String) : Option Tree :=
  let named := anchors.values.filter fun entry => toString entry.1 == name
  (named.foldl (fun best entry =>
    match best with
    | none => some entry
    | some kept => if kept.2.1 < entry.2.1 then some entry else best) none).map (·.2.2)

mutual

def weight : Tree → Nat
  | .scalar _ _ _ => 1
  | .alias _ => 1
  | .sequence _ items => weightItems items + 2
  | .mapping _ pairs => weightPairs pairs + 2

def weightItems : List Tree → Nat
  | [] => 0
  | item :: rest => weight item + weightItems rest

def weightPairs : List (Tree × Tree) → Nat
  | [] => 0
  | (key, value) :: rest => weight key + weight value + weightPairs rest

end

def maxDepth : Nat := 128

mutual

/-- A tree with its aliases followed, at most `jumps` of them, and the jumps left over; `depth` more
levels may be entered. What is nested too deep or reached by too many jumps is unreadable. -/
def expand (anchors : Anchors) (depth jumps : Nat) (tree : Tree) : Source × Nat :=
  match tree with
  | .scalar properties text style => (.scalar (scalarOf properties.tag text style), jumps)
  | .sequence properties items =>
    match depth with
    | 0 => (.unreadable, jumps)
    | depth + 1 =>
      let (items, jumps) := expandItems anchors depth jumps items
      (.list false (isLocal properties.tag) items, jumps)
  | .mapping properties pairs =>
    match depth with
    | 0 => (.unreadable, jumps)
    | depth + 1 =>
      let (pairs, jumps) := expandPairs anchors depth jumps pairs
      (.record (isLocal properties.tag) pairs, jumps)
  | .alias name =>
    match jumps, anchors.value? name, depth with
    | jumps + 1, some (.scalar properties text style), _ =>
      (.scalar (scalarOf properties.tag text style), jumps)
    | jumps + 1, some (.sequence properties items), depth + 1 =>
      let (items, jumps) := expandItems anchors depth jumps items
      (.list false (isLocal properties.tag) items, jumps)
    | jumps + 1, some (.mapping properties pairs), depth + 1 =>
      let (pairs, jumps) := expandPairs anchors depth jumps pairs
      (.record (isLocal properties.tag) pairs, jumps)
    | jumps, _, _ => (.unreadable, jumps)
termination_by (depth, sizeOf tree)

def expandItems (anchors : Anchors) (depth jumps : Nat) (items : List Tree) : List Source × Nat :=
  match items with
  | [] => ([], jumps)
  | item :: rest =>
    let (item, jumps) := expand anchors depth jumps item
    let (items, jumps) := expandItems anchors depth jumps rest
    (item :: items, jumps)
termination_by (depth, sizeOf items)

def expandPairs (anchors : Anchors) (depth jumps : Nat) (pairs : List (Tree × Tree)) :
    List (Scalar × Source) × Nat :=
  match pairs with
  | [] => ([], jumps)
  | (key, value) :: rest =>
    let (key, jumps) := expand anchors depth jumps key
    let (value, jumps) := expand anchors depth jumps value
    let (pairs, jumps) := expandPairs anchors depth jumps rest
    let name := match key with
      | .scalar s => s
      | _ => Scalar.unreadable
    ((name, value) :: pairs, jumps)
termination_by (depth, sizeOf pairs)

end

/-- The value of a text that holds at most one document; no document is an empty scalar. -/
def read? (text : String) : Option Source :=
  match (tokens? text).bind Tree.document? with
  | none => none
  | some none => some (.scalar { Scalar.unreadable with hollow := true })
  | some (some tree) =>
    match number ⟨[], 0, []⟩ tree with
    | none => none
    | some (tree, anchors) => some (expand anchors maxDepth (100 * weight tree) tree).1

end Yaml
end WireContract

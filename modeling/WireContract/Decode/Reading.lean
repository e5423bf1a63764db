import WireContract.Dict
import WireContract.Decode.Source

/-!
Typed decoding of sources. In some notations a record can also be given as a list of its fields in order; a
field that is missing at the end, or by name, gets its default where it has one.
-/

namespace WireContract
namespace Source

def text? : Source → Option String
  | .scalar s => s.text
  | _ => none

def bool? : Source → Option Bool
  | .scalar s => s.bool
  | _ => none

def natural? : Source → Option Nat
  | .scalar s => s.natural
  | _ => none

def float? : Source → Option Float
  | .scalar s => s.float
  | _ => none

mutual

/-- The value of a source where any value may stand; of equal keys the last counts. -/
def untyped? : Source → Option Json
  | .scalar s => s.untyped
  | .list _ closed items => if closed then none else (untypedItems items).map .array
  | .record closed pairs =>
    if closed then none
    else (untypedPairs Dict.empty pairs).map fun dict => .object dict.entries

def untypedItems : List Source → Option (List Json)
  | [] => some []
  | item :: rest =>
    match untyped? item, untypedItems rest with
    | some value, some values => some (value :: values)
    | _, _ => none

def untypedPairs (dict : Dict Json) : List (Scalar × Source) → Option (Dict Json)
  | [] => some dict
  | (key, value) :: rest =>
    match key.text, untyped? value with
    | some key, some value => untypedPairs (dict.insert key value) rest
    | _, _ => none

end

mutual

def depth : Source → Nat
  | .scalar _ => 0
  | .list _ _ items => depthItems items + 1
  | .record _ pairs => depthPairs pairs + 1

def depthItems : List Source → Nat
  | [] => 0
  | item :: rest => max (depth item) (depthItems rest)

def depthPairs : List (Scalar × Source) → Nat
  | [] => 0
  | (_, value) :: rest => max (depth value) (depthPairs rest)

end

def optional? {α : Type} (read : Source → Option α) (source : Source) : Option (Option α) :=
  match source with
  | .scalar s =>
    match s.missing with
    | some true => some none
    | some false => (read source).map some
    | none => none
  | _ => (read source).map some

def readAll {α : Type} (read : Source → Option α) : List Source → Option (List α)
  | [] => some []
  | item :: rest =>
    match read item, readAll read rest with
    | some value, some values => some (value :: values)
    | _, _ => none

def list? {α : Type} (read : Source → Option α) : Source → Option (List α)
  | .list _ _ items => readAll read items
  | .scalar s => if s.hollow then some [] else none
  | .record _ _ => none

def readPairs {κ α : Type} (readKey : Scalar → Option κ) (read : Source → Option α) :
    List (Scalar × Source) → Option (List (κ × α))
  | [] => some []
  | (key, value) :: rest =>
    match readKey key, read value, readPairs readKey read rest with
    | some key, some value, some pairs => some ((key, value) :: pairs)
    | _, _, _ => none

def pairs? {κ α : Type} (readKey : Scalar → Option κ) (read : Source → Option α) :
    Source → Option (List (κ × α))
  | .record _ pairs => readPairs readKey read pairs
  | .scalar s => if s.hollow then some [] else none
  | .list _ _ _ => none

/-- A map with texts as keys; of equal keys the last counts. -/
def dict? {α : Type} (read : Source → Option α) (source : Source) : Option (Dict α) :=
  (pairs? Scalar.text read source).map Dict.ofList

abbrev Fields := List (Option Source)

def valuesOf (name : String) (pairs : List (Scalar × Source)) : List Source :=
  pairs.filterMap fun (key, value) => if key.text == some name then some value else none

/-- The field under each name; a field may be given once, and every key has to be a text. -/
def fieldsByName (pairs : List (Scalar × Source)) : List String → Option Fields
  | [] => if pairs.all fun pair => pair.1.text.isSome then some [] else none
  | name :: names =>
    match valuesOf name pairs, fieldsByName pairs names with
    | [], some fields => some (none :: fields)
    | [value], some fields => some (some value :: fields)
    | _, _ => none

def fieldsByPosition : List String → List Source → Option Fields
  | [], [] => some []
  | [], _ :: _ => none
  | _ :: names, [] => (fieldsByPosition names []).map (none :: ·)
  | _ :: names, item :: items => (fieldsByPosition names items).map (some item :: ·)

def fields? (names : List String) : Source → Option Fields
  | .record _ pairs => fieldsByName pairs names
  | .list positional _ items => if positional then fieldsByPosition names items else none
  | .scalar s => if s.hollow then fieldsByName [] names else none

/-- The fields of a record of which none may be left out at the end of a list. -/
def wholeFields? (names : List String) (source : Source) : Option Fields :=
  match source with
  | .list _ _ items => if items.length < names.length then none else fields? names source
  | _ => fields? names source

def required? {α : Type} (read : Source → Option α) (field : Option Source) : Option α :=
  match field with
  | some source => read source
  | none => none

def defaulted? {α : Type} (value : α) (read : Source → Option α) (field : Option Source) : Option α :=
  match field with
  | some source => read source
  | none => some value

def given? {α : Type} (read : Source → Option α) (field : Option Source) : Option (Option α) :=
  match field with
  | some source => optional? read source
  | none => some none

end Source
end WireContract

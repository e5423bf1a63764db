import WireContract.Dict
import WireContract.Json.Basic
import WireContract.Text.Quoted

namespace WireContract

/-- What a value has to look like. A field with a default, or one that is optional, may be missing. -/
inductive Shape
  | any
  | text
  | signed
  | list (item : Shape)
  | optional (inner : Shape)
  | record (name : String) (fields : List (String × Shape × Option Json))

inductive ShapeError
  | wrongType (found : Json) (expected : String)
  | outOfRange (found : Json) (expected : String)
  | tooShort (length : Nat) (expected : String)
  | tooLong (length : Nat)
  | missing (field : String)

namespace ShapeError

def describe : Json → String
  | .null => "null"
  | .bool b => "boolean \x60" ++ (if b then "true" else "false") ++ "\x60"
  | .number (.integer n) => "integer \x60" ++ toString n ++ "\x60"
  | .number (.float x) => "floating point \x60" ++ (Number.float x).text ++ "\x60"
  | .string s => "string " ++ Text.quoted s
  | .array _ => "sequence"
  | .object _ => "map"

def message : ShapeError → String
  | wrongType found expected => "invalid type: " ++ describe found ++ ", expected " ++ expected
  | outOfRange found expected => "invalid value: " ++ describe found ++ ", expected " ++ expected
  | tooShort length expected => "invalid length " ++ toString length ++ ", expected " ++ expected
  | tooLong length =>
    "invalid length " ++ toString length ++ ", expected fewer elements in array"
  | missing field => "missing field \x60" ++ field ++ "\x60"

end ShapeError

namespace Shape

def recordName (name : String) : String := "struct " ++ name

def recordLength (name : String) (count : Nat) : String :=
  recordName name ++ " with " ++ toString count ++ if count == 1 then " element" else " elements"

structure FieldReader where
  name : String
  default : Option Json
  /-- what a missing field comes to, if its record has named fields -/
  absent : Except ShapeError Json
  read : Json → Except ShapeError Json

def readMembers (readers : List FieldReader) : List (String × Json) → Except ShapeError (Dict Json)
  | [] => .ok ∅
  | (key, value) :: rest =>
    match readers.find? fun reader => reader.name == key with
    | none => readMembers readers rest
    | some reader => do
      let value ← reader.read value
      let values ← readMembers readers rest
      return values.insert key value

def complete (given : Dict Json) : List FieldReader → Except ShapeError (List (String × Json))
  | [] => .ok []
  | reader :: rest => do
    let value ←
      match given.get? reader.name with
      | some value => .ok value
      | none => reader.absent
    let values ← complete given rest
    return (reader.name, value) :: values

/-- Fields by position; one with a default may be missing at the end. -/
def readInOrder (expected : String) (position : Nat) :
    List FieldReader → List Json → Except ShapeError (List (String × Json))
  | [], _ => .ok []
  | reader :: readers, item :: items => do
    let value ← reader.read item
    let values ← readInOrder expected (position + 1) readers items
    return (reader.name, value) :: values
  | reader :: readers, [] =>
    match reader.default with
    | some value => do
      let values ← readInOrder expected (position + 1) readers []
      return (reader.name, value) :: values
    | none => .error (.tooShort position expected)

def readRecord (name : String) (readers : List FieldReader) : Json → Except ShapeError Json
  | .object members => do
    let given ← readMembers readers members
    let fields ← complete given readers
    return .object (Dict.ofList fields).entries
  | .array items => do
    let fields ← readInOrder (recordLength name readers.length) 0 readers items
    if readers.length < items.length then .error (.tooLong items.length)
    else return .object (Dict.ofList fields).entries
  | value => .error (.wrongType value (recordName name))

def readItems (read : Json → Except ShapeError Json) : List Json → Except ShapeError (List Json)
  | [] => .ok []
  | item :: rest => do
    let value ← read item
    let values ← readItems read rest
    return value :: values

def readText : Json → Except ShapeError Json
  | .string s => .ok (.string s)
  | value => .error (.wrongType value "a string")

def readSigned : Json → Except ShapeError Json
  | .number (.integer n) =>
    if n < 9223372036854775808 then .ok (.number (.integer n))
    else .error (.outOfRange (.number (.integer n)) "i64")
  | value => .error (.wrongType value "i64")

mutual

/-- Brings a value into shape: missing fields get their defaults, and unknown ones are dropped. -/
def read : Shape → Json → Except ShapeError Json
  | .any, value => .ok value
  | .text, value => readText value
  | .signed, value => readSigned value
  | .list item, value =>
    match value with
    | .array items => (readItems (read item) items).map .array
    | value => .error (.wrongType value "a sequence")
  | .optional inner, value => if value.isNull then .ok .null else read inner value
  | .record name fields, value => readRecord name (readers fields) value

def readers : List (String × Shape × Option Json) → List FieldReader
  | [] => []
  | (name, shape, default) :: rest =>
    let absent :=
      match default, shape with
      | some value, _ => .ok value
      | none, .optional _ => .ok .null
      | none, _ => .error (.missing name)
    ⟨name, default, absent, read shape⟩ :: readers rest

end

end Shape
end WireContract

import WireContract.Decimal.Layout

/-!
Data values. A number keeps whether it was written as an integer; an object lists its members in key
order, which `Json.Ordered` says of a whole value.
-/

namespace WireContract

/-- A number as data carry it: an integer of at most 64 bits, or a double. -/
inductive Number
  | integer (n : Int)
  | float (x : Float)
  deriving DecidableEq

namespace Number

def InRange (n : Int) : Prop := -9223372036854775808 ≤ n ∧ n < 18446744073709551616

instance (n : Int) : Decidable (InRange n) := by unfold InRange; infer_instance

def toFloat : Number → Float
  | .integer n =>
    if n < 0 then -(UInt64.ofNat n.natAbs).toFloat else (UInt64.ofNat n.toNat).toFloat
  | .float x => x

/-- Equality of numbers of one kind; floats compare as floats do. -/
def same : Number → Number → Bool
  | .integer a, .integer b => a == b
  | .float a, .float b => a == b
  | _, _ => false

def text : Number → String
  | .integer n => toString n
  | .float x => FloatLayout.interchange.text x

def signed? : Number → Option Int
  | .integer n => if n < 9223372036854775808 then some n else none
  | .float _ => none

def unsigned? : Number → Option Nat
  | .integer n => if 0 ≤ n then some n.toNat else none
  | .float _ => none

end Number

inductive Json
  | null
  | bool (b : Bool)
  | number (n : Number)
  | string (s : String)
  | array (items : List Json)
  | object (members : List (String × Json))

namespace Json

instance : Inhabited Json := ⟨.null⟩

def ofInt (n : Int) : Json := .number (.integer n)

def ofNat (n : Nat) : Json := .number (.integer n)

def ofFloat (x : Float) : Json := if x.isFinite then .number (.float x) else .null

def get? (value : Json) (key : String) : Option Json :=
  match value with
  | .object members => (members.find? fun member => member.1 == key).map (·.2)
  | _ => none

theorem sizeOf_lt_of_mem_array {item : Json} {items : List Json} (member : item ∈ items) :
    sizeOf item < sizeOf (array items) := by
  have := List.sizeOf_lt_of_mem member
  simp
  omega

theorem sizeOf_lt_of_mem_object {key : String} {item : Json} {members : List (String × Json)}
    (member : (key, item) ∈ members) : sizeOf item < sizeOf (object members) := by
  have := List.sizeOf_lt_of_mem member
  simp at this ⊢
  omega

theorem sizeOf_lt_of_get? {value part : Json} {key : String} (found : value.get? key = some part) :
    sizeOf part < sizeOf value := by
  cases value with
  | object members =>
    simp only [get?, Option.map_eq_some_iff] at found
    obtain ⟨⟨name, other⟩, isFound, rfl⟩ := found
    exact sizeOf_lt_of_mem_object (List.mem_of_find?_eq_some isFound)
  | _ => simp [get?] at found

def isNull : Json → Bool
  | .null => true
  | _ => false

def asString? : Json → Option String
  | .string s => some s
  | _ => none

mutual

/-- Equality that compares floats as floats do, so that `0.0` and `-0.0` are one. -/
def same : Json → Json → Bool
  | .null, .null => true
  | .bool a, .bool b => a == b
  | .number a, .number b => a.same b
  | .string a, .string b => a == b
  | .array a, .array b => sameItems a b
  | .object a, .object b => sameMembers a b
  | _, _ => false

def sameItems : List Json → List Json → Bool
  | [], [] => true
  | a :: as, b :: bs => same a b && sameItems as bs
  | _, _ => false

def sameMembers : List (String × Json) → List (String × Json) → Bool
  | [], [] => true
  | (k, a) :: as, (l, b) :: bs => k == l && same a b && sameMembers as bs
  | _, _ => false

end

mutual

/-- Every object within lists its members in strictly increasing key order. -/
def Ordered : Json → Prop
  | .array items => OrderedItems items
  | .object members => (members.Pairwise fun a b => a.1 < b.1) ∧ OrderedMembers members
  | _ => True

def OrderedItems : List Json → Prop
  | [] => True
  | item :: rest => Ordered item ∧ OrderedItems rest

def OrderedMembers : List (String × Json) → Prop
  | [] => True
  | (_, value) :: rest => Ordered value ∧ OrderedMembers rest

end

theorem ordered_of_mem_items {items : List Json} (ordered : OrderedItems items) {item : Json}
    (member : item ∈ items) : item.Ordered := by
  induction items with
  | nil => cases member
  | cons first rest ih =>
    cases member with
    | head => exact ordered.1
    | tail _ later => exact ih ordered.2 later

theorem ordered_of_mem_members {members : List (String × Json)} (ordered : OrderedMembers members)
    {key : String} {item : Json} (member : (key, item) ∈ members) : item.Ordered := by
  induction members with
  | nil => cases member
  | cons first rest ih =>
    cases member with
    | head => exact ordered.1
    | tail _ later => exact ih ordered.2 later

end Json
end WireContract

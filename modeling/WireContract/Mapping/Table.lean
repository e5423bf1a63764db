import WireContract.Lifecycle

/-!
Tables that say how the properties of a model appear in data: under which name, as which other model,
derived by which function, checked how, and bound from where in a request. Models refer to each other by
keys of a type `κ`, so that tables may be recursive.
-/

namespace WireContract

inductive ValueCheck
  | rules (rules : RuleSet)
  | predicate (holds : Json → Bool)

abbrev Transform := (root parent : Json) → Json

structure Property (κ : Type) where
  name : String
  rename : Option String
  nested : Option κ
  transform : Option Transform
  check : Option ValueCheck
  location : Option Location

namespace Property

variable {κ : Type}

def new (name : String) : Property κ := ⟨name, none, none, none, none, none⟩

def wireName (property : Property κ) : String := property.rename.getD property.name

end Property

/-- The properties of one model, each declared once, and the properties by their names in data. -/
structure Table (κ : Type) where
  name : String
  properties : List (Property κ)
  byWire : Dict String

abbrev Tables (κ : Type) := κ → Table κ

namespace Table

variable {κ : Type}

def new (name : String) : Table κ := ⟨name, [], ∅⟩

def property? (table : Table κ) (name : String) : Option (Property κ) :=
  table.properties.find? fun property => property.name == name

/-- Puts a property in the place of the one with its name, or at the end. -/
def place (property : Property κ) : List (Property κ) → List (Property κ)
  | [] => [property]
  | first :: rest => if first.name == property.name then property :: rest else first :: place property rest

/-- Declares a property. A later declaration replaces an earlier one of the same name, and the name in
data that it took leads to it alone. -/
def declare (table : Table κ) (property : Property κ) : Table κ :=
  { table with
    properties := place property table.properties
    byWire := (table.byWire.filter fun _ name => name != property.name).insert property.wireName
      property.name }

def ofProperties (name : String) (properties : List (Property κ)) : Table κ :=
  properties.foldl declare (new name)

/-- The name of the property that a key in data stands for; other keys stand for themselves. -/
def propertyFor (table : Table κ) (wireKey : String) : String :=
  (table.byWire.get? wireKey).getD wireKey

end Table
end WireContract

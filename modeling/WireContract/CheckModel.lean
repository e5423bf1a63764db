import WireContract.Location
import WireContract.RuleSet

namespace WireContract

/-- The rules by field path, for each location that has a section. -/
structure CheckModel where
  query : Option (Dict RuleSet)
  path : Option (Dict RuleSet)
  header : Option (Dict RuleSet)
  body : Option (Dict RuleSet)
  definitions : Option (Dict RuleSet)

namespace CheckModel

def empty : CheckModel := ⟨none, none, none, none, none⟩

instance : EmptyCollection CheckModel := ⟨empty⟩

instance : Inhabited CheckModel := ⟨empty⟩

def section? (model : CheckModel) : Location → Option (Dict RuleSet)
  | .query => model.query
  | .path => model.path
  | .header => model.header
  | .body => model.body
  | .definitions => model.definitions

def withSection (model : CheckModel) (location : Location) (fields : Dict RuleSet) : CheckModel :=
  match location with
  | .query => { model with query := some fields }
  | .path => { model with path := some fields }
  | .header => { model with header := some fields }
  | .body => { model with body := some fields }
  | .definitions => { model with definitions := some fields }

def rules? (model : CheckModel) (location : Location) (path : String) : Option RuleSet :=
  (model.section? location).bind fun fields => fields.get? path

def update (model : CheckModel) (location : Location) (path : String) (change : RuleSet → RuleSet) :
    CheckModel :=
  let fields := (model.section? location).getD ∅
  model.withSection location (fields.insert path (change ((fields.get? path).getD ∅)))

/-- Writes rules over those at a place; to write none makes no entry. -/
def extendAt (model : CheckModel) (location : Location) (path : String) (rules : RuleSet) : CheckModel :=
  if rules.isEmpty then model else model.update location path fun old => old.extend rules

def enter (model : CheckModel) (location : Location) (path : String) : CheckModel :=
  model.update location path id

def rulesAt (model : CheckModel) (location : Location) (path : String) : RuleSet :=
  (model.rules? location path).getD ∅

def entries (model : CheckModel) : List (Location × String × RuleSet) :=
  Location.all.flatMap fun location =>
    match model.section? location with
    | some fields => fields.entries.map fun (path, rules) => (location, path, rules)
    | none => []

def size (model : CheckModel) : Nat := model.entries.length

def isEmpty (model : CheckModel) : Bool := model.entries.isEmpty

theorem section?_withSection (model : CheckModel) (location other : Location)
    (fields : Dict RuleSet) :
    (model.withSection location fields).section? other =
      if other = location then some fields else model.section? other := by
  cases location <;> cases other <;> rfl

theorem ext_section? {left right : CheckModel}
    (agree : ∀ location, left.section? location = right.section? location) : left = right := by
  cases left
  cases right
  have query := agree .query
  have path := agree .path
  have header := agree .header
  have body := agree .body
  have definitions := agree .definitions
  simp only [section?] at query path header body definitions
  subst query path header body definitions
  rfl

theorem rules?_update (model : CheckModel) (location other : Location) (path otherPath : String)
    (change : RuleSet → RuleSet) :
    (model.update location path change).rules? other otherPath =
      if other = location ∧ otherPath = path then some (change (model.rulesAt location path))
      else model.rules? other otherPath := by
  simp only [update, rules?, section?_withSection]
  by_cases sameLocation : other = location
  · subst sameLocation
    by_cases samePath : otherPath = path
    · subst samePath
      cases found : model.section? other <;>
        simp [Dict.get?_insert, rulesAt, rules?, found, EmptyCollection.emptyCollection]
    · cases found : model.section? other <;>
        simp [Dict.get?_insert, samePath, EmptyCollection.emptyCollection]
  · simp [sameLocation]

def members (encodeFields : Dict RuleSet → Json) (model : CheckModel) : List (String × Json) :=
  Location.all.filterMap fun location =>
    (model.section? location).map fun fields => (location.name, encodeFields fields)

def encode (model : CheckModel) : Json :=
  .object (Dict.ofList
    (model.members fun fields => .object (fields.map RuleSet.encode).entries)).entries

/-- The model as a value whose sections and rules stand in their own order instead of key order. -/
def listing (model : CheckModel) : Json :=
  .object (model.members fun fields => .object (fields.map fun rules => .object rules.members).entries)

def ofSections (sections : List (Location × Dict RuleSet)) : CheckModel :=
  sections.foldl (fun model entry => model.withSection entry.1 entry.2) empty

open Source in
def decode (source : Source) : Option CheckModel :=
  let location (key : Scalar) : Option Location := key.text.bind Location.ofName?
  (pairs? location (dict? RuleSet.decode) source).map ofSections

end CheckModel
end WireContract

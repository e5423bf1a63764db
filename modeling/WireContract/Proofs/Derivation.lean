import WireContract.Proofs.Incoming
import WireContract.Proofs.WireNames

namespace WireContract

namespace Json

inductive Step
  | item (index : Nat)
  | member (key : String)

def step? (value : Json) : Step → Option Json
  | .item index =>
    match value with
    | .array items => items[index]?
    | _ => none
  | .member key => value.get? key

def at? (value : Json) : List Step → Option Json
  | [] => some value
  | step :: path => (value.step? step).bind fun part => part.at? path

theorem get?_object (members : List (String × Json)) (key : String) :
    (Json.object members).get? key = Dict.find? key members := by
  induction members with
  | nil => rfl
  | cons member rest ih =>
    by_cases same : key = member.1
    · simp [get?, Dict.find?, same]
    · simpa [get?, Dict.find?, same, Ne.symm same] using ih

end Json

namespace Table

variable {κ : Type} {table : Table κ}

def Declared (table : Table κ) : Prop := ∃ properties, table = ofProperties table.name properties

theorem Declared.nodup_names (declared : table.Declared) : (table.properties.map Property.name).Nodup := by
  obtain ⟨properties, isTable⟩ := declared
  rw [isTable]
  exact nodup_names_ofProperties _ _

/-- An object has what a table makes of members: the properties that their keys stand for and those that are
derived. The latter are computed from the outermost object and the members, unless they are models. -/
structure Derives (table : Table κ) (root : Json) (members : List (String × Json)) (internal : Dict Json) :
    Prop where
  keys : ∀ name, name ∈ internal.keys ↔
    (∃ member ∈ members, table.propertyFor member.1 = name) ∨
      ∃ property ∈ table.properties, property.transform.isSome = true ∧ property.name = name
  values : ∀ property ∈ table.properties, property.nested = none →
    ∀ transform, property.transform = some transform →
      internal.get? property.name = some (transform root (.object members))

end Table

namespace Tables

variable {κ : Type} {tables : Tables κ}

/-- The objects in a value that are converted with a table, if the value is, with which, and where what they
become is found. Of members that stand for one property the last is kept. -/
inductive HandlesAt (tables : Tables κ) :
    Table κ → Json → List Json.Step → Table κ → List (String × Json) → Prop
  | here (table : Table κ) (members : List (String × Json)) :
    HandlesAt tables table (.object members) [] table members
  | item {table other : Table κ} {items : List Json} {index : Nat} {item : Json} {path : List Json.Step}
      {members : List (String × Json)} :
    items[index]? = some item → HandlesAt tables table item path other members →
      HandlesAt tables table (.array items) (.item index :: path) other members
  | member {table nested other : Table κ} {front back members : List (String × Json)} {key : String}
      {item : Json} {path : List Json.Step} :
    (∀ later ∈ back, table.propertyFor later.1 ≠ table.propertyFor key) →
      tables.tableOf (table.property? (table.propertyFor key)) = some nested →
      HandlesAt tables nested item path other members →
      HandlesAt tables table (.object (front ++ (key, item) :: back))
        (.member (table.propertyFor key) :: path) other members

theorem HandlesAt.exists_model {model : κ} {table other : Table κ} {value : Json} {path : List Json.Step}
    {members : List (String × Json)} (handles : tables.HandlesAt table value path other members)
    (isModel : table = tables model) : ∃ key, other = tables key := by
  induction handles generalizing model with
  | here => exact ⟨model, isModel⟩
  | item _ _ ih => exact ih isModel
  | member _ isNested _ ih =>
    obtain ⟨key, isTable⟩ := exists_of_tableOf isNested
    exact ih isTable

/-- What an object becomes is found where it is said to be, and is computed with the same outermost object. -/
theorem HandlesAt.at?_inbound {table other : Table κ} {value : Json} {path : List Json.Step}
    {members : List (String × Json)} (handles : tables.HandlesAt table value path other members)
    (root : Json) :
    (tables.inbound root (some table) value).at? path =
      some (.object (tables.internal root other members).entries) := by
  induction handles with
  | here table members => rw [inbound_object, Json.at?]
  | @item table other items index item path members isItem _ ih =>
    rw [inbound, inboundItems_eq_map, Json.at?, Json.step?, List.getElem?_map, isItem]
    exact ih
  | @member table nested other front back members key item path last isNested _ ih =>
    have found : (tables.internal root table (front ++ (key, item) :: back)).get?
        (table.propertyFor key) = some (tables.inbound root (some nested) item) := by
      rw [get?_internal_of_last last, valueOf_of_nested isNested]
    rw [inbound_object, Json.at?, Json.step?, Json.get?_object]
    exact (congrArg (Option.bind · _) found).trans ih

theorem derives_internal {table : Table κ} (names : (table.properties.map Property.name).Nodup)
    (root : Json) (members : List (String × Json)) :
    table.Derives root members (tables.internal root table members) where
  keys _ := mem_keys_internal
  values property member whole transform derives := by
    have isKey : property.name ∈ (tables.internal root table members).keys :=
      mem_keys_internal.mpr (.inr ⟨property, member, Option.isSome_of_eq_some derives, rfl⟩)
    refine Dict.get?_ofList_of_agree (Dict.mem_keys_ofList_iff.mp isKey) fun other isWritten => ?_
    rcases List.mem_append.mp isWritten with isGiven | isAdded
    · obtain ⟨⟨key, item⟩, _, same⟩ := List.mem_map.mp isGiven
      obtain ⟨stands, rfl⟩ := Prod.mk.inj same
      simp only at stands
      rw [stands, Table.property?_name names member, valueOf_of_derived whole derives]
    · obtain ⟨again, isProperty, _, _, isTransform, same⟩ := mem_derived.mp isAdded
      obtain ⟨isName, rfl⟩ := Prod.mk.inj same
      rw [Table.eq_of_name_eq names isProperty member isName, derives] at isTransform
      rw [Option.some.inj isTransform]

/-- Every object that is converted on the way in has what its table makes of its members, also one whose value
is overwritten later; where it is kept, it is found in the result, and all are computed with one outermost
object. -/
theorem inbound_derives (declared : ∀ key, (tables key).Declared) (model : κ) (root value : Json) :
    (∀ key members, ∃ internal : Dict Json,
      tables.inbound root (some (tables key)) (.object members) = .object internal.entries ∧
        (tables key).Derives root members internal) ∧
    ∀ path other members, tables.HandlesAt (tables model) value path other members →
      ∃ internal : Dict Json,
        (tables.inbound root (some (tables model)) value).at? path = some (.object internal.entries) ∧
          other.Derives root members internal := by
  constructor
  · intro key members
    exact ⟨_, inbound_object root _ members, derives_internal (declared key).nodup_names root members⟩
  · intro path other members handles
    obtain ⟨key, rfl⟩ := handles.exists_model rfl
    exact ⟨_, handles.at?_inbound root, derives_internal (declared key).nodup_names root members⟩

end Tables

namespace Litter

def kind : Property Unit :=
  { Property.new "kind" with transform := some fun root _ => (root.get? "kind").getD .null }

def puppies : Property Unit := { (Property.new "puppies" : Property Unit) with nested := some () }

def tables : Tables Unit := fun _ => .ofProperties "Animal" [kind, puppies]

def wolf : Json :=
  .object [("kind", .string "wolf"),
    ("puppies", .array [.object [("kind", .string "fox")], .object []])]

theorem handles_puppy {index : Nat} {members : List (String × Json)}
    (isPuppy : [Json.object [("kind", .string "fox")], .object []][index]? = some (.object members)) :
    tables.HandlesAt (tables ()) wolf [.member "puppies", .item index] (tables ()) members := by
  show tables.HandlesAt (tables ()) (.object ([("kind", _)] ++ ("puppies", .array _) :: []))
    [.member ((tables ()).propertyFor "puppies"), .item index] (tables ()) members
  exact .member (fun _ later => nomatch later) rfl (.item isPuppy (.here _ _))

theorem puppies_are_wolves :
    (∀ key, (tables key).Declared) ∧ ∀ index < 2, ∃ internal : Dict Json,
      (tables.inbound wolf (some (tables ())) wolf).at? [.member "puppies", .item index] =
          some (.object internal.entries) ∧
        internal.get? "kind" = some (.string "wolf") := by
  have declared : ∀ key, (tables key).Declared := fun _ => ⟨[kind, puppies], rfl⟩
  refine ⟨declared, fun index below => ?_⟩
  obtain ⟨members, isPuppy⟩ : ∃ members,
      [Json.object [("kind", .string "fox")], .object []][index]? = some (.object members) := by
    match index, below with
    | 0, _ => exact ⟨_, rfl⟩
    | 1, _ => exact ⟨_, rfl⟩
  obtain ⟨internal, isThere, derives⟩ :=
    (Tables.inbound_derives declared () wolf wolf).2 _ _ _ (handles_puppy isPuppy)
  exact ⟨internal, isThere, derives.values kind (.head _) rfl _ rfl⟩

end Litter
end WireContract

import WireContract.Proofs.Incoming
import WireContract.Proofs.Reporting
import WireContract.Proofs.WireNames

namespace WireContract

namespace Table

variable {κ : Type}

/-- A table that declares every property once, under distinct names in data, and derives none. -/
def Renames (table : Table κ) : Prop :=
  ∃ properties, table = ofProperties table.name properties ∧
    (properties.map Property.name).Nodup ∧ (properties.map Property.wireName).Nodup ∧
      ∀ property ∈ properties, property.transform = none

theorem Renames.indexed {table : Table κ} (renames : table.Renames) : table.Indexed := by
  obtain ⟨properties, declared, names, wireNames, _⟩ := renames
  rw [declared]
  exact (indexed_ofProperties table.name names wireNames).2

theorem Renames.transform_eq_none {table : Table κ} (renames : table.Renames) {property : Property κ}
    (member : property ∈ table.properties) : property.transform = none := by
  obtain ⟨properties, declared, names, wireNames, underived⟩ := renames
  rw [declared, (indexed_ofProperties table.name names wireNames).1] at member
  exact underived property member

end Table

namespace Tables

variable {κ : Type} {tables : Tables κ}

/-- The objects in a value that are converted with a table, if the value is, and with which. -/
inductive Handles (tables : Tables κ) : Table κ → Json → Table κ → List (String × Json) → Prop
  | here (table : Table κ) (members : List (String × Json)) :
    Handles tables table (.object members) table members
  | item {table other : Table κ} {items : List Json} {item : Json} {members : List (String × Json)} :
    item ∈ items → Handles tables table item other members →
      Handles tables table (.array items) other members
  | member {table nested other : Table κ} {within members : List (String × Json)} {key : String}
      {item : Json} :
    (key, item) ∈ within → tables.tableOf (table.property? key) = some nested →
      Handles tables nested item other members → Handles tables table (.object within) other members

theorem outboundItems_eq_map (table : Option (Table κ)) (items : List Json) :
    tables.outboundItems table items = items.map (tables.outbound table) := by
  induction items with
  | nil => rfl
  | cons item rest ih => rw [outboundItems, ih, List.map_cons]

def sent (tables : Tables κ) (table : Table κ) (member : String × Json) : String × Json :=
  (table.wireKey member.1, tables.outbound (tables.tableOf (table.property? member.1)) member.2)

theorem outboundMembers_eq_map (table : Table κ) (members : List (String × Json)) :
    tables.outboundMembers (some table) members = members.map (tables.sent table) := by
  induction members with
  | nil => rfl
  | cons member rest ih =>
    rw [outboundMembers, ih]
    rfl

theorem outboundMembers_none (members : List (String × Json)) :
    tables.outboundMembers none members =
      members.map fun member => (member.1, tables.outbound none member.2) := by
  induction members with
  | nil => rfl
  | cons member rest ih =>
    rw [outboundMembers, ih]
    rfl

def received (tables : Tables κ) (root : Json) (table : Table κ) (member : String × Json) :
    String × Json :=
  let name := table.propertyFor member.1
  (name, tables.inbound root (tables.tableOf (table.property? name)) member.2)

theorem taken_eq_received {table : Table κ}
    (underived : ∀ property ∈ table.properties, property.transform = none) (root parent : Json) :
    tables.taken root parent table = tables.received root table := by
  funext member
  have stays : (table.property? (table.propertyFor member.1)).bind Property.transform = none := by
    cases found : table.property? (table.propertyFor member.1) with
    | none => rfl
    | some property => exact underived property (Table.mem_of_property? found).1
  rw [taken, valueOf_of_underived stays]
  rfl

theorem derived_eq_nil {table : Table κ}
    (underived : ∀ property ∈ table.properties, property.transform = none) (seen : List String)
    (root parent : Json) : derived table seen root parent = [] := by
  refine List.filterMap_eq_nil_iff.mpr fun property member => ?_
  rw [underived property member]
  exact ite_self _

theorem outbound_none {value : Json} (ordered : value.Ordered) : tables.outbound none value = value := by
  induction size : sizeOf value using Nat.strongRecOn generalizing value with
  | ind size ih =>
    subst size
    cases value with
    | array items =>
      have same : items.map (tables.outbound none) = items := by
        refine (List.map_congr_left fun item member => ?_).trans (List.map_id _)
        exact ih _ (Json.sizeOf_lt_of_mem_array member) (Json.ordered_of_mem_items ordered member) rfl
      rw [outbound, outboundItems_eq_map, same]
    | object members =>
      have same : (members.map fun member => (member.1, tables.outbound none member.2)) = members := by
        refine (List.map_congr_left fun member isMember => ?_).trans (List.map_id _)
        have stays := ih _ (Json.sizeOf_lt_of_mem_object isMember)
          (Json.ordered_of_mem_members ordered.2 isMember) rfl
        rw [stays, id]
      have whole : Dict.ofList members = ⟨members, ordered.1⟩ := Dict.ofList_of_perm (.refl _)
      rw [outbound, outboundMembers_none, same, whole]
    | null | bool | number | string => rfl

theorem inbound_outbound_object {table : Table κ} (renames : table.Renames) (root : Json)
    {members : List (String × Json)} (increasing : members.Pairwise fun a b => a.1 < b.1)
    (undone : ∀ member ∈ members, tables.received root table (tables.sent table member) = member) :
    tables.inbound root (some table) (tables.outbound (some table) (.object members)) =
      .object members := by
  let dict : Dict Json := ⟨members, increasing⟩
  have whole : (members.map (tables.sent table)).map (tables.received root table) = members := by
    rw [List.map_map]
    exact (List.map_congr_left undone).trans (List.map_id _)
  -- keys that come back are distinct, so those that went out were
  have distinct : ((members.map (tables.sent table)).map Prod.fst).Nodup := by
    have names : (((members.map (tables.sent table)).map Prod.fst).map table.propertyFor).Nodup := by
      rw [List.map_map]
      have back := congrArg (List.map Prod.fst) whole
      rw [List.map_map] at back
      exact back ▸ Dict.nodup_keys increasing
    exact List.Pairwise.of_map table.propertyFor (fun _ _ differ same => differ (congrArg _ same)) names
  have wire : (Dict.ofList (members.map (tables.sent table))).entries.Perm
      (members.map (tables.sent table)) := Dict.perm_entries_ofList distinct
  have perm : ((Dict.ofList (members.map (tables.sent table))).entries.map
      (tables.received root table)).Perm dict.entries :=
    (wire.map _).trans (.of_eq whole)
  have underived : ∀ property ∈ table.properties, property.transform = none :=
    fun _ member => renames.transform_eq_none member
  rw [outbound, outboundMembers_eq_map, inbound_object, internal, taken_eq_received underived,
    derived_eq_nil underived, List.append_nil, Dict.ofList_of_perm perm]

theorem inbound_outbound_of_renames (renames : ∀ key, (tables key).Renames) (root : Json) {value : Json}
    (ordered : value.Ordered) {table : Table κ} (own : table.Renames)
    (apart : ∀ other members, tables.Handles table value other members → other.Apart members) :
    tables.inbound root (some table) (tables.outbound (some table) value) = value := by
  induction size : sizeOf value using Nat.strongRecOn generalizing value table with
  | ind size ih =>
    subst size
    cases value with
    | array items =>
      have undone : ∀ item ∈ items,
          tables.inbound root (some table) (tables.outbound (some table) item) = item := by
        intro item member
        exact ih _ (Json.sizeOf_lt_of_mem_array member) (Json.ordered_of_mem_items ordered member) own
          (fun other members handled => apart other members (.item member handled)) rfl
      rw [outbound, outboundItems_eq_map, inbound, inboundItems_eq_map, List.map_map]
      exact congrArg Json.array ((List.map_congr_left undone).trans (List.map_id _))
    | object members =>
      refine inbound_outbound_object own root ordered.1 fun member isMember => ?_
      have back := own.indexed.propertyFor_wireKey (apart _ _ (.here table members)) isMember
      have itemOrdered := Json.ordered_of_mem_members ordered.2 isMember
      simp only [received, sent, back]
      cases nested : tables.tableOf (table.property? member.1) with
      | none => rw [inbound_none, outbound_none itemOrdered]
      | some other =>
        obtain ⟨key, rfl⟩ := exists_of_tableOf nested
        rw [ih _ (Json.sizeOf_lt_of_mem_object isMember) itemOrdered (renames key)
          (fun other members handled => apart other members (.member isMember nested handled)) rfl]
    | null | bool | number | string => rfl

end Tables

namespace Converter

variable {σ κ : Type}

/-- What goes out comes back, whatever the checks on the way come to, which validators they use up and who
is told of failures. -/
theorem inbound_outbound (converter : Converter σ) {tables : Tables κ}
    (renames : ∀ key, (tables key).Renames) (model : κ) {value : Json} (ordered : value.Ordered)
    (apart : ∀ table members, tables.Handles (tables model) value table members → table.Apart members)
    (root : Json) :
    Chain.Returns (converter.outbound tables (some (tables model)) value) fun wire =>
      wire = tables.outbound (some (tables model)) value ∧
        tables.inbound root (some (tables model)) wire = value := by
  refine (converter.returns_outbound tables _ value).mono fun wire isWire => ⟨isWire, ?_⟩
  rw [isWire]
  exact Tables.inbound_outbound_of_renames renames root ordered (renames model) apart

end Converter

namespace Pedigree

def name : Property Unit :=
  { Property.new "name" with rename := some "label", check := some (.predicate fun _ => false) }

def label : Property Unit := { Property.new "label" with rename := some "title" }

def parents : Property Unit := { (Property.new "parents" : Property Unit) with nested := some () }

def tables : Tables Unit := fun _ => .ofProperties "Animal" [name, label, parents]

def animal : Json :=
  .object [("label", .string "A"), ("name", .string "Rex"), ("note", .null),
    ("parents", .array [.object [("name", .string "Max")]])]

def converter : Converter (List CheckFailure) :=
  ⟨Lifecycle.default.validators.subscriptions, ⟨0, 0⟩, fun failure =>
    StateT.lift (modify fun told => told ++ [failure])⟩

theorem renames : ∀ key, (tables key).Renames := by
  intro key
  refine ⟨[name, label, parents], rfl, ?_, ?_, ?_⟩
  · decide
  · decide
  · simp [name, label, parents, Property.new]

theorem ordered : animal.Ordered := by
  simp only [animal, Json.Ordered, Json.OrderedMembers, Json.OrderedItems, and_true, true_and]
  decide

theorem key_of_nested {key : String} {nested : Table Unit}
    (isNested : tables.tableOf ((tables ()).property? key) = some nested) :
    key = "parents" ∧ nested = tables () := by
  obtain ⟨_, isTable⟩ := Tables.exists_of_tableOf isNested
  refine ⟨?_, isTable⟩
  cases found : (tables ()).property? key with
  | none =>
    rw [found] at isNested
    cases isNested
  | some property =>
    rw [found] at isNested
    obtain ⟨declared, rfl⟩ := Table.mem_of_property? found
    have isOne : property ∈ [name, label, parents] := declared
    simp only [List.mem_cons, List.not_mem_nil, or_false] at isOne
    rcases isOne with rfl | rfl | rfl
    · cases isNested
    · cases isNested
    · rfl

theorem apart : ∀ table members, tables.Handles (tables ()) animal table members → table.Apart members := by
  intro table members handled
  cases handled with
  | here =>
    unfold Table.Apart
    decide
  | member isMember isNested handled =>
    obtain ⟨rfl, rfl⟩ := key_of_nested isNested
    obtain rfl : _ = Json.array [.object [("name", .string "Max")]] := by simpa using isMember
    cases handled with
    | item isItem handled =>
      obtain rfl := List.mem_singleton.mp isItem
      cases handled with
      | here =>
        unfold Table.Apart
        decide
      | member isMember isNested _ =>
        obtain ⟨rfl, _⟩ := key_of_nested isNested
        simp at isMember

theorem animal_comes_back :
    (∀ key, (tables key).Renames) ∧ animal.Ordered ∧
      (∀ table members, tables.Handles (tables ()) animal table members → table.Apart members) ∧
      ((converter.outbound tables (some (tables ())) animal).run [] |>.run []).2.length = 2 ∧
      tables.inbound .null (some (tables ()))
        ((converter.outbound tables (some (tables ())) animal).run [] |>.run []).1.1 = animal :=
  ⟨renames, ordered, apart, rfl, (converter.inbound_outbound renames () ordered apart .null [] []).2⟩

end Pedigree
end WireContract

import WireContract.Mapping.Conversion
import WireContract.Proofs.LastWritten

namespace WireContract
namespace Tables

variable {κ : Type} {tables : Tables κ} {root parent : Json} {table nested : Table κ}

theorem inbound_none (root value : Json) : tables.inbound root none value = value := by
  cases value <;> rw [inbound]

theorem inboundItems_eq_map (root : Json) (table : Table κ) (items : List Json) :
    tables.inboundItems root table items = items.map (tables.inbound root (some table)) := by
  induction items with
  | nil => rfl
  | cons item rest ih => rw [inboundItems, ih, List.map_cons]

theorem exists_of_tableOf {property : Option (Property κ)} (isNested : tables.tableOf property = some nested) :
    ∃ key, nested = tables key := by
  obtain ⟨key, _, isTable⟩ := Option.map_eq_some_iff.mp isNested
  exact ⟨key, isTable.symm⟩

def valueOf (tables : Tables κ) (root parent : Json) (property : Option (Property κ)) (item : Json) : Json :=
  match tables.tableOf property with
  | some nested => tables.inbound root (some nested) item
  | none =>
    match property.bind Property.transform with
    | some transform => transform root parent
    | none => item

theorem valueOf_of_nested {property : Option (Property κ)} (isNested : tables.tableOf property = some nested)
    (root parent item : Json) :
    tables.valueOf root parent property item = tables.inbound root (some nested) item := by
  rw [valueOf, isNested]

theorem valueOf_of_derived {property : Property κ} {transform : Transform} (whole : property.nested = none)
    (derives : property.transform = some transform) (root parent item : Json) :
    tables.valueOf root parent (some property) item = transform root parent := by
  simp [valueOf, tableOf, whole, derives]

theorem valueOf_of_underived {property : Option (Property κ)}
    (underived : property.bind Property.transform = none) (root parent item : Json) :
    tables.valueOf root parent property item = tables.inbound root (tables.tableOf property) item := by
  rw [valueOf, underived]
  cases tables.tableOf property with
  | none => rw [inbound_none]
  | some nested => rfl

def taken (tables : Tables κ) (root parent : Json) (table : Table κ) (member : String × Json) :
    String × Json :=
  let name := table.propertyFor member.1
  (name, tables.valueOf root parent (table.property? name) member.2)

theorem inboundMembers_eq_map_taken (root parent : Json) (table : Table κ)
    (members : List (String × Json)) :
    tables.inboundMembers root parent table members = members.map (tables.taken root parent table) := by
  induction members with
  | nil => rfl
  | cons member rest ih =>
    rw [inboundMembers, ih]
    rfl

def internal (tables : Tables κ) (root : Json) (table : Table κ) (members : List (String × Json)) :
    Dict Json :=
  let parent : Json := .object members
  let given := members.map (tables.taken root parent table)
  Dict.ofList (given ++ derived table (given.map Prod.fst) root parent)

theorem inbound_object (root : Json) (table : Table κ) (members : List (String × Json)) :
    tables.inbound root (some table) (.object members) =
      .object (tables.internal root table members).entries := by
  rw [inbound, inboundMembers_eq_map_taken]
  rfl

theorem mem_derived {table : Table κ} {seen : List String} {entry : String × Json} :
    entry ∈ derived table seen root parent ↔
      ∃ property ∈ table.properties, property.name ∉ seen ∧
        ∃ transform, property.transform = some transform ∧
          (property.name, transform root parent) = entry := by
  rw [derived, List.mem_filterMap]
  refine exists_congr fun property => and_congr_right fun _ => ?_
  split
  · next isSeen => simp [List.contains_iff_mem.mp isSeen]
  · next unseen =>
    rw [Option.map_eq_some_iff, and_iff_right (mt List.contains_iff_mem.mpr unseen)]

theorem mem_names_derived {table : Table κ} {seen : List String} {name : String} :
    name ∈ (derived table seen root parent).map Prod.fst ↔
      name ∉ seen ∧
        ∃ property ∈ table.properties, property.transform.isSome = true ∧ property.name = name := by
  rw [List.mem_map]
  constructor
  · rintro ⟨entry, isDerived, rfl⟩
    obtain ⟨property, member, unseen, transform, derives, rfl⟩ := mem_derived.mp isDerived
    exact ⟨unseen, property, member, Option.isSome_of_eq_some derives, rfl⟩
  · rintro ⟨unseen, property, member, derives, rfl⟩
    obtain ⟨transform, isTransform⟩ := Option.isSome_iff_exists.mp derives
    exact ⟨_, mem_derived.mpr ⟨property, member, unseen, transform, isTransform, rfl⟩, rfl⟩

theorem mem_keys_internal {members : List (String × Json)} {name : String} :
    name ∈ (tables.internal root table members).keys ↔
      (∃ member ∈ members, table.propertyFor member.1 = name) ∨
        ∃ property ∈ table.properties, property.transform.isSome = true ∧ property.name = name := by
  have given : name ∈ (members.map (tables.taken root (.object members) table)).map Prod.fst ↔
      ∃ member ∈ members, table.propertyFor member.1 = name := by
    rw [List.map_map]
    exact List.mem_map
  rw [internal, Dict.mem_keys_ofList_iff, List.map_append, List.mem_append, mem_names_derived, given]
  by_cases isGiven : ∃ member ∈ members, table.propertyFor member.1 = name
  · exact iff_of_true (.inl isGiven) (.inl isGiven)
  · exact or_congr_right (and_iff_right isGiven)

/-- Of the members that stand for one property the last counts, whatever the property derives. -/
theorem get?_internal_of_last {front back : List (String × Json)} {key : String} {item : Json}
    (last : ∀ later ∈ back, table.propertyFor later.1 ≠ table.propertyFor key) (root : Json) :
    (tables.internal root table (front ++ (key, item) :: back)).get? (table.propertyFor key) =
      some (tables.valueOf root (.object (front ++ (key, item) :: back))
        (table.property? (table.propertyFor key)) item) := by
  let parent : Json := .object (front ++ (key, item) :: back)
  let take := tables.taken root parent table
  let given := (front ++ (key, item) :: back).map take
  let added := derived table (given.map Prod.fst) root parent
  have split : given ++ added = front.map take ++ take (key, item) :: (back.map take ++ added) := by
    simp only [given, List.map_append, List.map_cons, List.append_assoc, List.cons_append]
  have isGiven : table.propertyFor key ∈ given.map Prod.fst :=
    List.mem_map_of_mem (List.mem_map_of_mem (List.mem_append_right _ (.head _)))
  have noLater : table.propertyFor key ∉ (back.map take ++ added).map Prod.fst := by
    rw [List.map_append, List.map_map, List.mem_append, not_or]
    refine ⟨?_, fun isAdded => (mem_names_derived.mp isAdded).1 isGiven⟩
    rw [List.mem_map]
    rintro ⟨later, isLater, same⟩
    exact last later isLater same
  show (Dict.ofList (given ++ added)).get? (table.propertyFor key) = _
  rw [split]
  exact Dict.get?_ofList_of_last noLater

end Tables
end WireContract

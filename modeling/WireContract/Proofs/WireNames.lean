import Mathlib.Data.List.Nodup
import WireContract.Mapping.Table

namespace WireContract
namespace Table

variable {κ : Type} {table : Table κ} {property : Property κ}

/-- The properties have distinct names, and the index has the name in data of each, and no others. -/
structure Indexed (table : Table κ) : Prop where
  names : (table.properties.map Property.name).Nodup
  index : ∀ wireKey name, table.byWire.get? wireKey = some name ↔
    ∃ property ∈ table.properties, property.wireName = wireKey ∧ property.name = name

theorem indexed_new (name : String) : (new name : Table κ).Indexed where
  names := .nil
  index := by simp [new, EmptyCollection.emptyCollection]

theorem place_of_new {properties : List (Property κ)}
    (isNew : property.name ∉ properties.map Property.name) :
    place property properties = properties ++ [property] := by
  induction properties with
  | nil => rfl
  | cons first rest ih =>
    rw [List.map_cons, List.mem_cons, not_or] at isNew
    have differs : ¬ (first.name == property.name) = true := by simpa using Ne.symm isNew.1
    rw [place, if_neg differs, ih isNew.2, List.cons_append]

theorem names_place (property : Property κ) (properties : List (Property κ)) :
    (place property properties).map Property.name =
      if property.name ∈ properties.map Property.name then properties.map Property.name
      else properties.map Property.name ++ [property.name] := by
  induction properties with
  | nil => rfl
  | cons first rest ih =>
    rw [place]
    by_cases same : first.name = property.name
    · simp [same]
    · have differs : property.name ≠ first.name := Ne.symm same
      simp only [beq_iff_eq, same, if_false, List.map_cons, ih, List.mem_cons, differs, false_or]
      split <;> rfl

theorem nodup_names_ofProperties (name : String) (properties : List (Property κ)) :
    ((ofProperties name properties).properties.map Property.name).Nodup := by
  have declared (table : Table κ) (names : (table.properties.map Property.name).Nodup) :
      ((properties.foldl Table.declare table).properties.map Property.name).Nodup := by
    induction properties generalizing table with
    | nil => exact names
    | cons property rest ih =>
      refine ih (table.declare property) ?_
      rw [Table.declare, names_place]
      split
      · exact names
      · next isNew => exact List.nodup_append.mpr ⟨names, List.pairwise_singleton _ _, by grind⟩
  exact declared (new name) .nil

theorem Indexed.declare (indexed : table.Indexed)
    (isNew : property.name ∉ table.properties.map Property.name)
    (ownName : property.wireName ∉ table.properties.map Property.wireName) :
    (table.declare property).properties = table.properties ++ [property] ∧
      (table.declare property).Indexed := by
  have placed : (table.declare property).properties = table.properties ++ [property] :=
    place_of_new isNew
  have others (wireKey name : String) :
      (table.byWire.filter fun _ name => name != property.name).get? wireKey = some name ↔
        table.byWire.get? wireKey = some name := by
    rw [Dict.get?_filter, Option.filter_eq_some_iff, and_iff_left_iff_imp]
    intro found
    obtain ⟨other, member, _, rfl⟩ := (indexed.index wireKey name).mp found
    have differs : other.name ≠ property.name := fun same =>
      isNew (same ▸ List.mem_map_of_mem member)
    simpa using differs
  refine ⟨placed, ?_, ?_⟩
  · rw [placed, List.map_append, List.nodup_append]
    refine ⟨indexed.names, List.pairwise_singleton _ _, ?_⟩
    intro name member other alone same
    rw [List.map_singleton, List.mem_singleton] at alone
    exact isNew (alone ▸ same ▸ member)
  · intro wireKey name
    rw [placed]
    simp only [Table.declare, Dict.get?_insert, List.mem_append, List.mem_singleton, or_and_right,
      exists_or, exists_eq_left]
    split
    · next same =>
      have notBefore : ¬ ∃ other ∈ table.properties, other.wireName = wireKey ∧ other.name = name := by
        rintro ⟨other, member, isKey, _⟩
        exact ownName (same ▸ isKey ▸ List.mem_map_of_mem member)
      rw [or_iff_right notBefore, Option.some.injEq]
      simp [same]
    · next differs =>
      rw [others, indexed.index, or_iff_left]
      rintro ⟨isKey, _⟩
      exact differs isKey.symm

theorem Indexed.foldl_declare {properties : List (Property κ)} (indexed : table.Indexed)
    (names : ((table.properties ++ properties).map Property.name).Nodup)
    (wireNames : ((table.properties ++ properties).map Property.wireName).Nodup) :
    (properties.foldl Table.declare table).properties = table.properties ++ properties ∧
      (properties.foldl Table.declare table).Indexed := by
  induction properties generalizing table with
  | nil => exact ⟨(List.append_nil _).symm, indexed⟩
  | cons property rest ih =>
    have apart {α : Type} (read : Property κ → α)
        (distinct : ((table.properties ++ property :: rest).map read).Nodup) :
        read property ∉ table.properties.map read := by
      intro member
      rw [List.map_append, List.nodup_append] at distinct
      exact distinct.2.2 _ member _ (.head _) rfl
    obtain ⟨placed, declared⟩ := indexed.declare (apart _ names) (apart _ wireNames)
    have moved : (table.declare property).properties ++ rest = table.properties ++ property :: rest := by
      rw [placed, List.append_assoc, List.singleton_append]
    rw [List.foldl_cons, ← moved]
    exact ih declared (moved ▸ names) (moved ▸ wireNames)

theorem indexed_ofProperties (name : String) {properties : List (Property κ)}
    (names : (properties.map Property.name).Nodup)
    (wireNames : (properties.map Property.wireName).Nodup) :
    (ofProperties name properties).properties = properties ∧ (ofProperties name properties).Indexed :=
  (indexed_new name).foldl_declare names wireNames

theorem mem_of_property? {key : String} (found : table.property? key = some property) :
    property ∈ table.properties ∧ property.name = key :=
  ⟨List.mem_of_find?_eq_some found, by simpa using List.find?_some found⟩

theorem eq_of_name_eq (names : (table.properties.map Property.name).Nodup) {other : Property κ}
    (member : property ∈ table.properties) (isOther : other ∈ table.properties)
    (same : property.name = other.name) : property = other :=
  List.inj_on_of_nodup_map names member isOther same

theorem property?_name (names : (table.properties.map Property.name).Nodup)
    (member : property ∈ table.properties) : table.property? property.name = some property := by
  cases found : table.property? property.name with
  | none =>
    have differs := List.find?_eq_none.mp found property member
    simp at differs
  | some other =>
    obtain ⟨isOther, same⟩ := mem_of_property? found
    rw [eq_of_name_eq names isOther member same]

theorem Indexed.propertyFor_wireName (indexed : table.Indexed) (member : property ∈ table.properties) :
    table.propertyFor property.wireName = property.name := by
  rw [propertyFor, (indexed.index _ _).mpr ⟨property, member, rfl, rfl⟩, Option.getD_some]

theorem Indexed.propertyFor_of_undeclared (indexed : table.Indexed) {key : String}
    (undeclared : ∀ property ∈ table.properties, property.wireName ≠ key) :
    table.propertyFor key = key := by
  cases found : table.byWire.get? key with
  | none => rw [propertyFor, found, Option.getD_none]
  | some name =>
    obtain ⟨property, member, isKey, _⟩ := (indexed.index key name).mp found
    exact absurd isKey (undeclared property member)

def wireKey (table : Table κ) (key : String) : String :=
  ((table.property? key).map Property.wireName).getD key

/-- No key of a member that is not declared is the name in data of one that is. -/
def Apart (table : Table κ) (members : List (String × Json)) : Prop :=
  ∀ member ∈ members, table.property? member.1 = none →
    ∀ property ∈ table.properties, property.wireName ≠ member.1

theorem Indexed.propertyFor_wireKey (indexed : table.Indexed) {members : List (String × Json)}
    (apart : table.Apart members) {member : String × Json} (isMember : member ∈ members) :
    table.propertyFor (table.wireKey member.1) = member.1 := by
  rw [wireKey]
  cases found : table.property? member.1 with
  | none => exact indexed.propertyFor_of_undeclared (apart member isMember found)
  | some property =>
    obtain ⟨declared, isName⟩ := mem_of_property? found
    rw [Option.map_some, Option.getD_some, indexed.propertyFor_wireName declared, isName]

end Table
end WireContract

import WireContract.Proofs.Incoming
import WireContract.Proofs.WireNames

/-!
Which member of an object a property takes its value from. A key that is declared by none stands for itself,
also if it is the name of a property that is declared under another key; of both the greater one counts.
Main statement: `value_of_own_key`.
-/

namespace WireContract

namespace Table

variable {κ : Type} {table : Table κ} {property : Property κ}

/-- A property is exposed to its name as a key: no property is declared under that key, and it comes after the
one that the property is declared under. -/
def Exposed (table : Table κ) (property : Property κ) : Prop :=
  property.wireName < property.name ∧ ∀ other ∈ table.properties, other.wireName ≠ property.name

instance (table : Table κ) (property : Property κ) : Decidable (table.Exposed property) :=
  inferInstanceAs (Decidable (_ ∧ _))

/-- The keys that stand for a property are its name in data, and its name if that is the name in data of
none. -/
theorem Indexed.propertyFor_eq_iff (indexed : table.Indexed) (member : property ∈ table.properties)
    {key : String} :
    table.propertyFor key = property.name ↔
      key = property.wireName ∨
        (key = property.name ∧ ∀ other ∈ table.properties, other.wireName ≠ property.name) := by
  constructor
  · intro stands
    cases found : table.byWire.get? key with
    | some name =>
      obtain ⟨other, isOther, isKey, isName⟩ := (indexed.index key name).mp found
      rw [propertyFor, found, Option.getD_some, ← isName] at stands
      rw [← eq_of_name_eq indexed.names isOther member stands]
      exact .inl isKey.symm
    | none =>
      rw [propertyFor, found, Option.getD_none] at stands
      refine .inr ⟨stands, fun other isOther isKey => ?_⟩
      have indexes := (indexed.index key other.name).mpr ⟨other, isOther, isKey.trans stands.symm, rfl⟩
      cases found.symm.trans indexes
  · rintro (rfl | ⟨rfl, undeclared⟩)
    · exact indexed.propertyFor_wireName member
    · exact indexed.propertyFor_of_undeclared undeclared

end Table

namespace Tables

variable {κ : Type} {tables : Tables κ} {table : Table κ}

theorem get?_internal_of_greatest {members : Dict Json} {key : String} {item : Json}
    (given : members.get? key = some item)
    (greatest : ∀ later ∈ members.keys, key < later → table.propertyFor later ≠ table.propertyFor key)
    (root : Json) :
    (tables.internal root table members.entries).get? (table.propertyFor key) =
      some (tables.valueOf root (.object members.entries) (table.property? (table.propertyFor key)) item) := by
  obtain ⟨front, back, split⟩ := List.append_of_mem (Dict.get?_eq_some_iff.mp given)
  rw [split]
  refine get?_internal_of_last (fun later isLater => greatest later.1 ?_ ?_) root
  · rw [Dict.keys, split]
    exact List.mem_map_of_mem (List.mem_append_right _ (.tail _ isLater))
  · have increasing := members.increasing
    rw [split] at increasing
    exact (List.pairwise_cons.mp (List.pairwise_append.mp increasing).2.1).1 later isLater

def Reads (tables : Tables κ) (table : Table κ) (property : Property κ) (members : Dict Json)
    (root item : Json) : Prop :=
  ∃ internal : Dict Json,
    tables.inbound root (some table) (.object members.entries) = .object internal.entries ∧
      internal.get? property.name = some (tables.inbound root (tables.tableOf (some property)) item)

theorem Reads.inj {property : Property κ} {members : Dict Json} {root item other : Json}
    (reads : tables.Reads table property members root item)
    (again : tables.Reads table property members root other) :
    tables.inbound root (tables.tableOf (some property)) item =
      tables.inbound root (tables.tableOf (some property)) other := by
  obtain ⟨⟨entries, _⟩, isInternal, found⟩ := reads
  obtain ⟨⟨_, _⟩, isAgain, foundAgain⟩ := again
  cases isInternal.symm.trans isAgain
  exact Option.some.inj (found.symm.trans foundAgain)

theorem inbound_bool (root : Json) (table : Option (Table κ)) (b : Bool) :
    tables.inbound root table (.bool b) = .bool b := by
  cases table <;> simp [inbound]

section Own

variable {property : Property κ} {members : Dict Json} {item : Json} (indexed : table.Indexed)
  (member : property ∈ table.properties) (underived : property.transform = none)

include indexed member underived

theorem reads_of_greatest {key : String} (given : members.get? key = some item)
    (stands : table.propertyFor key = property.name)
    (greatest : ∀ later ∈ members.keys, key < later → table.propertyFor later ≠ property.name)
    (root : Json) : tables.Reads table property members root item := by
  refine ⟨_, inbound_object root table members.entries, ?_⟩
  rw [← stands] at greatest ⊢
  rw [get?_internal_of_greatest given greatest, stands, Table.property?_name indexed.names member,
    valueOf_of_underived (by simpa using underived)]

theorem reads_of_exposed (exposed : table.Exposed property)
    (given : members.get? property.name = some item) (root : Json) :
    tables.Reads table property members root item := by
  refine reads_of_greatest indexed member underived given
    (indexed.propertyFor_of_undeclared exposed.2) (fun later _ above stands => ?_) root
  rcases (indexed.propertyFor_eq_iff member).mp stands with rfl | ⟨rfl, _⟩
  · exact String.lt_irrefl _ (String.lt_trans above exposed.1)
  · exact String.lt_irrefl _ above

theorem reads_of_own (given : members.get? property.wireName = some item)
    (alone : table.Exposed property → members.get? property.name = none) (root : Json) :
    tables.Reads table property members root item := by
  refine reads_of_greatest indexed member underived given
    (indexed.propertyFor_wireName member) (fun later isLater above stands => ?_) root
  rcases (indexed.propertyFor_eq_iff member).mp stands with rfl | ⟨rfl, undeclared⟩
  · exact String.lt_irrefl _ above
  · obtain ⟨other, isOther⟩ := Dict.mem_keys_iff.mp isLater
    cases (alone ⟨above, undeclared⟩).symm.trans isOther

/-- An exposed property misses its own key in some object. -/
theorem exists_not_reads_of_exposed (exposed : table.Exposed property) (root : Json) :
    ∃ members item, members.get? property.wireName = some item ∧
      ¬ tables.Reads table property members root item := by
  -- two items that every conversion keeps apart
  let members : Dict Json :=
    (Dict.empty.insert property.wireName (.bool true)).insert property.name (.bool false)
  have own : members.get? property.wireName = some (.bool true) := by
    have differs : property.wireName ≠ property.name := fun same =>
      String.lt_irrefl property.name (same ▸ exposed.1)
    rw [Dict.get?_insert, if_neg differs, Dict.get?_insert, if_pos rfl]
  have stray : members.get? property.name = some (.bool false) := by
    rw [Dict.get?_insert, if_pos rfl]
  refine ⟨members, _, own, fun reads => ?_⟩
  have same := reads.inj (reads_of_exposed indexed member underived exposed stray root)
  rw [inbound_bool, inbound_bool] at same
  cases same

end Own

/-- A property that is not derived takes its value from the member under its name in data, unless it is
exposed to its name and there is a member under that, which then counts. So it is read from its own key
whatever others there are exactly if it is not exposed. -/
theorem value_of_own_key (tables : Tables κ) (name : String) {properties : List (Property κ)}
    (names : (properties.map Property.name).Nodup) (wireNames : (properties.map Property.wireName).Nodup)
    {property : Property κ} (declared : property ∈ properties) (underived : property.transform = none) :
    let table : Table κ := .ofProperties name properties
    (∀ members root item, members.get? property.wireName = some item →
      tables.Reads table property members root
        (if table.Exposed property then (members.get? property.name).getD item else item)) ∧
    ((∀ members root item, members.get? property.wireName = some item →
        tables.Reads table property members root item) ↔ ¬ table.Exposed property) := by
  intro table
  obtain ⟨placed, indexed⟩ := Table.indexed_ofProperties name names wireNames
  have member : property ∈ table.properties := placed ▸ declared
  refine ⟨?_, ?_, ?_⟩
  · intro members root item given
    split
    · next exposed =>
      cases found : members.get? property.name with
      | none => exact reads_of_own indexed member underived given (fun _ => found) root
      | some other => exact reads_of_exposed indexed member underived exposed found root
    · next hidden =>
      exact reads_of_own indexed member underived given (fun exposed => absurd exposed hidden) root
  · intro always exposed
    obtain ⟨members, item, given, missed⟩ :=
      exists_not_reads_of_exposed indexed member underived exposed .null
    exact missed (always members .null item given)
  · intro hidden members root item given
    exact reads_of_own indexed member underived given (fun exposed => absurd exposed hidden) root

end Tables

namespace Badge

def owner : Property Unit := { Property.new "owner" with rename := some "keeper" }

def code : Property Unit := { Property.new "code" with rename := some "tag" }

def tables : Tables Unit := fun _ => .ofProperties "Badge" [owner, code]

def badge : Dict Json :=
  .ofList [("code", .string "old"), ("keeper", .string "Ann"), ("owner", .string "Bob"),
    ("tag", .string "new")]

theorem code_read_from_tag :
    ([owner, code].map Property.name).Nodup ∧ ([owner, code].map Property.wireName).Nodup ∧
      badge.get? code.wireName = some (.string "new") ∧
      badge.get? code.name = some (.string "old") ∧
      tables.Reads (tables ()) code badge .null (.string "new") := by
  have names : ([owner, code].map Property.name).Nodup := by decide
  have wireNames : ([owner, code].map Property.wireName).Nodup := by decide
  have hidden : ¬ (tables ()).Exposed code := by decide
  exact ⟨names, wireNames, rfl, rfl,
    (Tables.value_of_own_key tables "Badge" names wireNames (.tail _ (.head _)) rfl).2.mpr hidden badge .null
      _ rfl⟩

/-- The owner is read from another key, though there is its own. -/
theorem owner_not_read_from_keeper :
    ([owner, code].map Property.name).Nodup ∧ ([owner, code].map Property.wireName).Nodup ∧
      owner.transform = none ∧ badge.get? owner.wireName = some (.string "Ann") ∧
      tables.inbound .null (some (tables ())) (.object badge.entries) =
        .object [("code", .string "new"), ("owner", .string "Bob")] ∧
      ¬ tables.Reads (tables ()) owner badge .null (.string "Ann") := by
  have internal : tables.inbound .null (some (tables ())) (.object badge.entries) =
      .object [("code", .string "new"), ("owner", .string "Bob")] := rfl
  refine ⟨by decide, by decide, rfl, rfl, internal, ?_⟩
  rintro ⟨⟨entries, _⟩, isInternal, isAnn⟩
  cases internal.symm.trans isInternal
  have same : some (Json.string "Bob") = some (Json.string "Ann") := isAnn
  simp at same

end Badge
end WireContract

import WireContract.Contract.Data

namespace WireContract

namespace Dict

variable {α : Type}

theorem find?_eq_none {key : String} {entries : List (String × α)} (absent : key ∉ entries.map Prod.fst) :
    find? key entries = none := by
  induction entries with
  | nil => rfl
  | cons first rest ih =>
    rw [List.map_cons, List.mem_cons, not_or] at absent
    rw [find?, if_neg absent.1, ih absent.2]

theorem find?_eq_some_iff_of_nodup {key : String} {value : α} {entries : List (String × α)}
    (distinct : (entries.map Prod.fst).Nodup) :
    find? key entries = some value ↔ (key, value) ∈ entries := by
  induction entries with
  | nil => simp [find?]
  | cons first rest ih =>
    obtain ⟨name, old⟩ := first
    rw [List.map_cons, List.nodup_cons] at distinct
    rw [find?, List.mem_cons]
    split
    · next same =>
      subst same
      have absent : (key, value) ∉ rest := fun member =>
        distinct.1 (List.mem_map.mpr ⟨_, member, rfl⟩)
      simp [absent, eq_comm]
    · next differs => simp [ih distinct.2, differs]

theorem get?_ofList {pairs : List (String × α)} (distinct : (pairs.map Prod.fst).Nodup) (key : String) :
    (ofList pairs).get? key = find? key pairs := by
  apply Option.ext
  intro value
  rw [get?_eq_some_iff, (perm_entries_ofList distinct).mem_iff, find?_eq_some_iff_of_nodup distinct]

theorem ofList_entries (dict : Dict α) : ofList dict.entries = dict := ofList_of_perm (.refl _)

end Dict

namespace Json

def present (fields : List (String × Option Json)) : List (Option (String × Json)) :=
  fields.map fun field => field.2.map fun value => (field.1, value)

theorem find?_present {fields : List (String × Option Json)} (distinct : (fields.map Prod.fst).Nodup)
    (name : String) :
    Dict.find? name ((present fields).filterMap id) = (Dict.find? name fields).join := by
  induction fields with
  | nil => rfl
  | cons first rest ih =>
    obtain ⟨key, value?⟩ := first
    rw [List.map_cons, List.nodup_cons] at distinct
    have later := ih distinct.2
    cases value? with
    | none =>
      -- a field that is not there hides no later one, since names are distinct
      have dropped : (present ((key, none) :: rest)).filterMap id = (present rest).filterMap id := rfl
      rw [dropped, later, Dict.find?]
      split
      · next same =>
        subst same
        rw [Dict.find?_eq_none distinct.1]
        rfl
      · rfl
    | some value =>
      have kept : (present ((key, some value) :: rest)).filterMap id =
          (key, value) :: (present rest).filterMap id := rfl
      rw [kept, Dict.find?, Dict.find?, later]
      split <;> rfl

theorem nodup_present {fields : List (String × Option Json)} (distinct : (fields.map Prod.fst).Nodup) :
    (((present fields).filterMap id).map Prod.fst).Nodup := by
  have sublist : (((present fields).filterMap id).map Prod.fst).Sublist (fields.map Prod.fst) := by
    induction fields with
    | nil => exact .slnil
    | cons first rest ih =>
      obtain ⟨key, value?⟩ := first
      rw [List.map_cons, List.nodup_cons] at distinct
      cases value? with
      | none => exact (ih distinct.2).cons _
      | some value => exact (ih distinct.2).cons_cons _
  exact distinct.sublist sublist

end Json

namespace Source

theorem valuesOf_ofJsonMembers {members : List (String × Json)} (distinct : (members.map Prod.fst).Nodup)
    (name : String) :
    valuesOf name (ofJsonMembers members) = ((Dict.find? name members).map ofJson).toList := by
  induction members with
  | nil => rfl
  | cons first rest ih =>
    obtain ⟨key, value⟩ := first
    rw [List.map_cons, List.nodup_cons] at distinct
    have split : valuesOf name (ofJsonMembers ((key, value) :: rest)) =
        (if name = key then [ofJson value] else []) ++ valuesOf name (ofJsonMembers rest) := by
      have text : (keyOfJson key).text = some key := rfl
      rw [ofJsonMembers, valuesOf, valuesOf, List.filterMap_cons]
      by_cases same : name = key
      · simp [text, same]
      · simp [text, same, Ne.symm same]
    rw [split, ih distinct.2, Dict.find?]
    by_cases same : name = key
    · subst same
      rw [if_pos rfl, if_pos rfl, Dict.find?_eq_none distinct.1]
      rfl
    · rw [if_neg same, if_neg same, List.nil_append]

theorem fieldsByName_ofJsonMembers {members : List (String × Json)}
    (distinct : (members.map Prod.fst).Nodup) (names : List String) :
    fieldsByName (ofJsonMembers members) names =
      some (names.map fun name => (Dict.find? name members).map ofJson) := by
  induction names with
  | nil =>
    have texts : (ofJsonMembers members).all (fun pair => pair.1.text.isSome) = true := by
      clear distinct
      induction members with
      | nil => rfl
      | cons first rest ih =>
        rw [ofJsonMembers, List.all_cons, ih]
        rfl
    rw [fieldsByName, if_pos texts, List.map_nil]
  | cons name rest ih =>
    rw [fieldsByName, valuesOf_ofJsonMembers distinct, ih, List.map_cons]
    cases Dict.find? name members <;> rfl

theorem find?_entries_present {fields : List (String × Option Json)}
    (distinct : (fields.map Prod.fst).Nodup) (name : String) :
    Dict.find? name (Dict.ofList ((Json.present fields).filterMap id)).entries =
      (Dict.find? name fields).join := by
  rw [← Json.find?_present distinct]
  exact Dict.get?_ofList (Json.nodup_present distinct) name

/-- Of a record that was written with fields under distinct names, each is read under its name. -/
theorem fields?_ofMembers {fields : List (String × Option Json)} (distinct : (fields.map Prod.fst).Nodup)
    (names : List String) :
    fields? names (ofJson (.ofMembers (Json.present fields))) =
      some (names.map fun name => (Dict.find? name fields).join.map ofJson) := by
  have entries := Dict.nodup_keys (Dict.ofList ((Json.present fields).filterMap id)).increasing
  rw [Json.ofMembers, ofJson, fields?, fieldsByName_ofJsonMembers entries]
  simp only [find?_entries_present distinct]

theorem wholeFields?_ofMembers {fields : List (String × Option Json)}
    (distinct : (fields.map Prod.fst).Nodup) (names : List String) :
    wholeFields? names (ofJson (.ofMembers (Json.present fields))) =
      some (names.map fun name => (Dict.find? name fields).join.map ofJson) := by
  rw [← fields?_ofMembers distinct names, Json.ofMembers, ofJson, wholeFields?]
  simp

theorem optional?_ofJson {α : Type} (read : Source → Option α) {value : Json}
    (isThere : value.isNull = false) :
    optional? read (ofJson value) = (read (ofJson value)).map some := by
  cases value with
  | null => cases isThere
  | _ => rfl

theorem given?_write {α : Type} {read : Source → Option α} {write : α → Json} {field : Option α}
    (reads : ∀ value ∈ field, (write value).isNull = false ∧ read (ofJson (write value)) = some value) :
    given? read ((field.map write).map ofJson) = some field := by
  cases field with
  | none => rfl
  | some value =>
    obtain ⟨isThere, isRead⟩ := reads value rfl
    rw [Option.map_some, Option.map_some, given?, optional?_ofJson read isThere, isRead, Option.map_some]

theorem list?_write {α : Type} {read : Source → Option α} {write : α → Json} {items : List α}
    (reads : ∀ item ∈ items, read (ofJson (write item)) = some item) :
    list? read (ofJson (.array (items.map write))) = some items := by
  rw [ofJson, list?]
  induction items with
  | nil => rfl
  | cons item rest ih =>
    obtain ⟨isRead, others⟩ := List.forall_mem_cons.mp reads
    rw [List.map_cons, ofJsonItems, readAll, isRead, ih others]

theorem readPairs_write {κ α : Type} {readKey : Scalar → Option κ} {read : Source → Option α}
    {name : κ → String} {write : α → Json} {pairs : List (κ × α)}
    (keys : ∀ key, readKey (keyOfJson (name key)) = some key)
    (reads : ∀ pair ∈ pairs, read (ofJson (write pair.2)) = some pair.2) :
    readPairs readKey read (ofJsonMembers (pairs.map fun pair => (name pair.1, write pair.2))) =
      some pairs := by
  induction pairs with
  | nil => rfl
  | cons pair rest ih =>
    obtain ⟨isRead, others⟩ := List.forall_mem_cons.mp reads
    rw [List.map_cons, ofJsonMembers, readPairs, keys, isRead, ih others]

theorem dict?_write {α : Type} {read : Source → Option α} {write : α → Json} {dict : Dict α}
    (reads : ∀ entry ∈ dict.entries, read (ofJson (write entry.2)) = some entry.2) :
    dict? read (ofJson (.object (dict.map write).entries)) = some dict := by
  have keys (key : String) : Scalar.text (keyOfJson (id key)) = some key := rfl
  have pairs : readPairs Scalar.text read (ofJsonMembers (dict.map write).entries) = some dict.entries :=
    readPairs_write keys reads
  rw [ofJson, dict?, pairs?, pairs, Option.map_some, Dict.ofList_entries]

mutual

theorem untyped?_ofJson (value : Json) (ordered : value.Ordered) :
    untyped? (ofJson value) = some value := by
  match value with
  | .null | .bool _ | .number _ | .string _ => rfl
  | .array items =>
    rw [Json.Ordered] at ordered
    rw [ofJson, untyped?, if_neg Bool.false_ne_true, untypedItems_ofJson items ordered, Option.map_some]
  | .object members =>
    rw [Json.Ordered] at ordered
    have same : Dict.ofList members = ⟨members, ordered.1⟩ := Dict.ofList_of_perm (.refl _)
    rw [ofJson, untyped?, if_neg Bool.false_ne_true, untypedPairs_ofJson Dict.empty members ordered.2,
      Option.map_some]
    exact congrArg (fun dict => some (Json.object (Dict.entries dict))) same

theorem untypedItems_ofJson (items : List Json) (ordered : Json.OrderedItems items) :
    untypedItems (ofJsonItems items) = some items := by
  match items with
  | [] => rfl
  | item :: rest =>
    rw [Json.OrderedItems] at ordered
    rw [ofJsonItems, untypedItems, untyped?_ofJson item ordered.1, untypedItems_ofJson rest ordered.2]

theorem untypedPairs_ofJson (dict : Dict Json) (members : List (String × Json))
    (ordered : Json.OrderedMembers members) :
    untypedPairs dict (ofJsonMembers members) =
      some (members.foldl (fun dict pair => dict.insert pair.1 pair.2) dict) := by
  match members with
  | [] => rfl
  | (key, value) :: rest =>
    rw [Json.OrderedMembers] at ordered
    have text : (keyOfJson key).text = some key := rfl
    rw [ofJsonMembers, untypedPairs, text, untyped?_ofJson value ordered.1]
    exact untypedPairs_ofJson (dict.insert key value) rest ordered.2

end

end Source
end WireContract

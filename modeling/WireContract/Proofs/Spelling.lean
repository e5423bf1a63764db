import WireContract.Json.Writer
import WireContract.Proofs.Records

namespace WireContract

theorem map_eq_of_map_eq {α β γ : Type} {f : α → β} {g : α → γ} (shows : ∀ a b, f a = f b → g a = g b)
    {items others : List α} (same : items.map f = others.map f) : items.map g = others.map g := by
  induction items generalizing others with
  | nil =>
    obtain rfl := List.map_eq_nil_iff.mp same.symm
    rfl
  | cons item items ih =>
    cases others with
    | nil => cases same
    | cons other others =>
      obtain ⟨first, later⟩ := List.cons.inj same
      rw [List.map_cons, List.map_cons, shows item other first, ih later]

namespace Dict

variable {α β : Type}

theorem put_map (write : α → β) (key : String) (value : α) (entries : List (String × α)) :
    put key (write value) (entries.map fun entry => (entry.1, write entry.2)) =
      (put key value entries).map fun entry => (entry.1, write entry.2) := by
  induction entries with
  | nil => rfl
  | cons first rest ih =>
    rw [List.map_cons, put, put, ih]
    split
    · rfl
    · split <;> rfl

theorem insert_map (write : α → β) (dict : Dict α) (key : String) (value : α) :
    (dict.map write).insert key (write value) = (dict.insert key value).map write := by
  have entries : ((dict.map write).insert key (write value)).entries =
      ((dict.insert key value).map write).entries := put_map write key value dict.entries
  generalize (dict.map write).insert key (write value) = left at entries ⊢
  generalize (dict.insert key value).map write = right at entries ⊢
  obtain ⟨_, _⟩ := left
  obtain ⟨_, _⟩ := right
  cases entries
  rfl

theorem ofList_map (write : α → β) (pairs : List (String × α)) :
    ofList (pairs.map fun pair => (pair.1, write pair.2)) = (ofList pairs).map write := by
  have fold (dict : Dict α) :
      (pairs.map fun pair => (pair.1, write pair.2)).foldl
          (fun dict pair => dict.insert pair.1 pair.2) (dict.map write) =
        (pairs.foldl (fun dict pair => dict.insert pair.1 pair.2) dict).map write := by
    induction pairs generalizing dict with
    | nil => rfl
    | cons pair pairs ih =>
      rw [List.map_cons, List.foldl_cons, List.foldl_cons, insert_map]
      exact ih _
  exact fold empty

end Dict

namespace Json

/-- How a value is spelt over several lines, at any level. -/
def spelling (value : Json) : Nat → String := fun level => value.prettyAt level

theorem prettyItems_eq (level : Nat) (items : List Json) :
    prettyItems level items = (items.map spelling).map fun spelt => spelt level := by
  induction items with
  | nil => rfl
  | cons item rest ih =>
    rw [prettyItems, ih]
    rfl

theorem prettyMembers_eq (level : Nat) (members : List (String × Json)) :
    prettyMembers level members =
      (members.map fun member => (member.1, member.2.spelling)).map fun member =>
        quoted member.1 ++ ": " ++ member.2 level := by
  induction members with
  | nil => rfl
  | cons member rest ih =>
    obtain ⟨key, value⟩ := member
    rw [prettyMembers, ih]
    rfl

theorem spelling_array {items others : List Json} (same : items.map spelling = others.map spelling) :
    (array items).spelling = (array others).spelling := by
  funext level
  rw [spelling, spelling, prettyAt, prettyAt, prettyItems_eq, prettyItems_eq, same]

theorem spelling_object {members others : List (String × Json)}
    (same : (members.map fun member => (member.1, member.2.spelling)) =
      others.map fun member => (member.1, member.2.spelling)) :
    (object members).spelling = (object others).spelling := by
  funext level
  rw [spelling, spelling, prettyAt, prettyAt, prettyMembers_eq, prettyMembers_eq, same]

theorem spelling_dict {pairs others : List (String × Json)}
    (same : (pairs.map fun pair => (pair.1, pair.2.spelling)) =
      others.map fun pair => (pair.1, pair.2.spelling)) :
    (object (Dict.ofList pairs).entries).spelling = (object (Dict.ofList others).entries).spelling := by
  have spelt (pairs : List (String × Json)) :
      ((Dict.ofList pairs).entries.map fun member => (member.1, member.2.spelling)) =
        (Dict.ofList (pairs.map fun pair => (pair.1, pair.2.spelling))).entries := by
    rw [Dict.ofList_map]
    rfl
  apply spelling_object
  rw [spelt, spelt, same]

theorem spelling_ofMembers {fields others : List (String × Option Json)}
    (same : (fields.map fun field => (field.1, field.2.map spelling)) =
      others.map fun field => (field.1, field.2.map spelling)) :
    (ofMembers (present fields)).spelling = (ofMembers (present others)).spelling := by
  have spelt (fields : List (String × Option Json)) :
      (((present fields).filterMap id).map fun member => (member.1, member.2.spelling)) =
        (fields.map fun field => (field.1, field.2.map spelling)).filterMap fun field =>
          field.2.map fun spelt => (field.1, spelt) := by
    induction fields with
    | nil => rfl
    | cons field fields ih =>
      obtain ⟨name, value?⟩ := field
      cases value? with
      | none => exact ih
      | some value => exact congrArg _ ih
  apply spelling_dict
  rw [spelt, spelt, same]

end Json
end WireContract

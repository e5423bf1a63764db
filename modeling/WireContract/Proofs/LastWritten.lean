import WireContract.Dict

namespace WireContract
namespace Dict

variable {α : Type}

theorem mem_keys_iff {dict : Dict α} {key : String} :
    key ∈ dict.keys ↔ ∃ value, dict.get? key = some value := by
  simp only [keys, List.mem_map, get?_eq_some_iff]
  constructor
  · rintro ⟨⟨_, value⟩, isEntry, rfl⟩
    exact ⟨value, isEntry⟩
  · rintro ⟨value, isEntry⟩
    exact ⟨(key, value), isEntry, rfl⟩

theorem get?_foldl_insert (pairs : List (String × α)) (dict : Dict α) (key : String) :
    (pairs.foldl (fun dict pair => dict.insert pair.1 pair.2) dict).get? key =
      ((ofList pairs).get? key).or (dict.get? key) := by
  induction pairs generalizing dict with
  | nil => rfl
  | cons pair rest ih =>
    rw [ofList, List.foldl_cons, List.foldl_cons, ih, ih (empty.insert pair.1 pair.2), Option.or_assoc,
      get?_insert, get?_insert]
    split <;> rfl

theorem get?_ofList_append (front back : List (String × α)) (key : String) :
    (ofList (front ++ back)).get? key = ((ofList back).get? key).or ((ofList front).get? key) := by
  rw [ofList, List.foldl_append, get?_foldl_insert]
  rfl

theorem get?_ofList_cons (pair : String × α) (rest : List (String × α)) (key : String) :
    (ofList (pair :: rest)).get? key =
      ((ofList rest).get? key).or (if key = pair.1 then some pair.2 else none) := by
  rw [← List.singleton_append, get?_ofList_append]
  exact congrArg _ (get?_insert empty pair.1 key pair.2)

theorem mem_of_get?_ofList {pairs : List (String × α)} {key : String} {value : α}
    (found : (ofList pairs).get? key = some value) : (key, value) ∈ pairs := by
  induction pairs with
  | nil => cases found
  | cons pair rest ih =>
    rw [get?_ofList_cons, Option.or_eq_some_iff] at found
    rcases found with later | ⟨_, first⟩
    · exact .tail _ (ih later)
    · obtain ⟨rfl, same⟩ := Option.ite_none_right_eq_some.mp first
      obtain rfl := Option.some.inj same
      exact .head _

theorem get?_ofList_eq_none_iff {pairs : List (String × α)} {key : String} :
    (ofList pairs).get? key = none ↔ key ∉ pairs.map Prod.fst := by
  induction pairs with
  | nil => simp [ofList]
  | cons pair rest ih =>
    rw [get?_ofList_cons, Option.or_eq_none_iff, ih, List.map_cons, List.mem_cons, not_or, and_comm]
    simp

theorem mem_keys_ofList_iff {pairs : List (String × α)} {key : String} :
    key ∈ (ofList pairs).keys ↔ key ∈ pairs.map Prod.fst := by
  rw [mem_keys_iff, ← Option.isSome_iff_exists, ← Option.ne_none_iff_isSome, ne_eq,
    get?_ofList_eq_none_iff, Decidable.not_not]

theorem get?_ofList_of_last {front back : List (String × α)} {key : String} {value : α}
    (last : key ∉ back.map Prod.fst) :
    (ofList (front ++ (key, value) :: back)).get? key = some value := by
  rw [get?_ofList_append, get?_ofList_cons, get?_ofList_eq_none_iff.mpr last, if_pos rfl]
  rfl

theorem get?_ofList_of_agree {pairs : List (String × α)} {key : String} {value : α}
    (written : key ∈ pairs.map Prod.fst) (agree : ∀ other, (key, other) ∈ pairs → other = value) :
    (ofList pairs).get? key = some value := by
  obtain ⟨other, found⟩ := mem_keys_iff.mp (mem_keys_ofList_iff.mpr written)
  rw [found, agree other (mem_of_get?_ofList found)]

end Dict
end WireContract

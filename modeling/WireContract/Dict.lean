/-!
String-keyed dictionaries, kept in key order so that two of them are equal exactly when they answer
every look-up alike. Main statements: `get?_insert`, `get?_erase`, `ext_get?` and `ofList_of_perm`.
-/

namespace WireContract

/-- A finite map from strings, its entries in strictly increasing key order. -/
structure Dict (α : Type) where
  entries : List (String × α)
  increasing : entries.Pairwise (fun a b => a.1 < b.1)

namespace Dict

def find? {α : Type} (key : String) : List (String × α) → Option α
  | [] => none
  | (name, value) :: rest => if key = name then some value else find? key rest

/-- Writes `value` under `key`, over an equal key or before the first greater one. -/
def put {α : Type} (key : String) (value : α) : List (String × α) → List (String × α)
  | [] => [(key, value)]
  | (name, old) :: rest =>
    if key = name then (key, value) :: rest
    else if key < name then (key, value) :: (name, old) :: rest
    else (name, old) :: put key value rest

variable {α : Type}

theorem find?_put (key other : String) (value : α) (entries : List (String × α)) :
    find? other (put key value entries) =
      if other = key then some value else find? other entries := by
  induction entries with
  | nil => simp [put, find?]
  | cons entry rest ih =>
    obtain ⟨name, old⟩ := entry
    unfold put
    split
    · next same => subst same; simp only [find?]; split <;> rfl
    · split
      · simp only [find?]
      · next differs _ =>
        simp only [find?, ih]
        by_cases atName : other = name
        · subst atName; simp [Ne.symm differs]
        · simp [atName]

theorem mem_put {key : String} {value : α} {entries : List (String × α)} {entry : String × α}
    (member : entry ∈ put key value entries) : entry = (key, value) ∨ entry ∈ entries := by
  induction entries with
  | nil => simpa [put] using member
  | cons first rest ih =>
    unfold put at member
    split at member
    · cases member with
      | head => exact .inl rfl
      | tail _ later => exact .inr (.tail _ later)
    · split at member
      · cases member with
        | head => exact .inl rfl
        | tail _ later => exact .inr later
      · cases member with
        | head => exact .inr (.head _)
        | tail _ later => exact (ih later).imp id (.tail _)

theorem increasing_put (key : String) (value : α) {entries : List (String × α)}
    (increasing : entries.Pairwise (fun a b => a.1 < b.1)) :
    (put key value entries).Pairwise (fun a b => a.1 < b.1) := by
  induction entries with
  | nil => simp [put]
  | cons first rest ih =>
    obtain ⟨below, tail⟩ := List.pairwise_cons.mp increasing
    unfold put
    split
    · next same => subst same; exact List.pairwise_cons.mpr ⟨below, tail⟩
    · next differs =>
      split
      · next less =>
        refine List.pairwise_cons.mpr ⟨?_, increasing⟩
        intro entry member
        cases member with
        | head => exact less
        | tail _ later => exact String.lt_trans less (below entry later)
      · next notLess =>
        refine List.pairwise_cons.mpr ⟨?_, ih tail⟩
        intro entry member
        rcases mem_put member with rfl | old
        · exact Std.lt_of_le_of_ne (String.not_lt.mp notLess) (Ne.symm differs)
        · exact below entry old

theorem perm_put {key : String} {entries : List (String × α)} (isNew : ∀ entry ∈ entries, entry.1 ≠ key)
    (value : α) : (put key value entries).Perm ((key, value) :: entries) := by
  induction entries with
  | nil => exact .refl _
  | cons first rest ih =>
    have differs : key ≠ first.1 := (isNew first (.head _)).symm
    have later := ih fun entry member => isNew entry (.tail _ member)
    rw [put, if_neg differs]
    split
    · exact .refl _
    · exact (later.cons first).trans (.swap _ _ _)

theorem find?_eq_none_of_lt {key : String} {entries : List (String × α)}
    (below : ∀ entry ∈ entries, key < entry.1) : find? key entries = none := by
  induction entries with
  | nil => rfl
  | cons first rest ih =>
    have less := below first (.head _)
    have differs : key ≠ first.1 := fun same => String.lt_irrefl key (by rw [← same] at less; exact less)
    simp only [find?, differs, if_false]
    exact ih fun entry member => below entry (.tail _ member)

theorem find?_eq_some_iff {key : String} {value : α} {entries : List (String × α)}
    (increasing : entries.Pairwise (fun a b => a.1 < b.1)) :
    find? key entries = some value ↔ (key, value) ∈ entries := by
  induction entries with
  | nil => simp [find?]
  | cons first rest ih =>
    obtain ⟨name, old⟩ := first
    obtain ⟨below, tail⟩ := List.pairwise_cons.mp increasing
    unfold find?
    split
    · next same =>
      subst same
      simp only [Option.some.injEq, List.mem_cons, Prod.mk.injEq, true_and]
      refine ⟨fun same => .inl same.symm, fun found => ?_⟩
      rcases found with same | later
      · exact same.symm
      · exact absurd (below _ later) (String.lt_irrefl key)
    · next differs => simp [ih tail, differs]

theorem entries_ext {left right : List (String × α)}
    (leftIncreasing : left.Pairwise (fun a b => a.1 < b.1))
    (rightIncreasing : right.Pairwise (fun a b => a.1 < b.1))
    (agree : ∀ key, find? key left = find? key right) : left = right := by
  induction left generalizing right with
  | nil =>
    cases right with
    | nil => rfl
    | cons first rest =>
      have found := agree first.1
      simp [find?] at found
  | cons first rest ih =>
    cases right with
    | nil =>
      have found := agree first.1
      simp [find?] at found
    | cons other more =>
      obtain ⟨name, value⟩ := first
      obtain ⟨name', value'⟩ := other
      obtain ⟨below, tail⟩ := List.pairwise_cons.mp leftIncreasing
      obtain ⟨below', tail'⟩ := List.pairwise_cons.mp rightIncreasing
      have same : name = name' := by
        by_cases same : name = name'
        · exact same
        · exfalso
          by_cases less : name < name'
          · have found := agree name
            have absent : find? name ((name', value') :: more) = none := by
              refine find?_eq_none_of_lt fun entry member => ?_
              cases member with
              | head => exact less
              | tail _ later => exact String.lt_trans less (below' entry later)
            rw [absent] at found
            simp [find?] at found
          · have less' := Std.lt_of_le_of_ne (String.not_lt.mp less) (Ne.symm same)
            have found := agree name'
            have absent : find? name' ((name, value) :: rest) = none := by
              refine find?_eq_none_of_lt fun entry member => ?_
              cases member with
              | head => exact less'
              | tail _ later => exact String.lt_trans less' (below entry later)
            rw [absent] at found
            simp [find?] at found
      subst same
      have sameValue := agree name
      simp only [find?, if_true, Option.some.injEq] at sameValue
      subst sameValue
      refine congrArg _ (ih tail tail' fun key => ?_)
      by_cases atName : key = name
      · subst atName
        rw [find?_eq_none_of_lt below, find?_eq_none_of_lt below']
      · have found := agree key
        simpa only [find?, atName, if_false] using found

def empty : Dict α := ⟨[], .nil⟩

instance : EmptyCollection (Dict α) := ⟨empty⟩

instance : Inhabited (Dict α) := ⟨empty⟩

def get? (dict : Dict α) (key : String) : Option α := find? key dict.entries

def contains (dict : Dict α) (key : String) : Bool := (dict.get? key).isSome

def size (dict : Dict α) : Nat := dict.entries.length

def isEmpty (dict : Dict α) : Bool := dict.entries.isEmpty

def keys (dict : Dict α) : List String := dict.entries.map Prod.fst

def values (dict : Dict α) : List α := dict.entries.map Prod.snd

def insert (dict : Dict α) (key : String) (value : α) : Dict α :=
  ⟨put key value dict.entries, increasing_put key value dict.increasing⟩

def erase (dict : Dict α) (key : String) : Dict α :=
  ⟨dict.entries.filter (fun entry => entry.1 != key), dict.increasing.filter _⟩

def filter (keep : String → α → Bool) (dict : Dict α) : Dict α :=
  ⟨dict.entries.filter (fun entry => keep entry.1 entry.2), dict.increasing.filter _⟩

/-- Writes the pairs one after another, so that of equal keys the last wins. -/
def ofList (pairs : List (String × α)) : Dict α :=
  pairs.foldl (fun dict pair => dict.insert pair.1 pair.2) empty

def map {β : Type} (f : α → β) (dict : Dict α) : Dict β :=
  ⟨dict.entries.map fun entry => (entry.1, f entry.2), by
    rw [List.pairwise_map]; exact dict.increasing⟩

@[ext] theorem ext_get? {left right : Dict α} (agree : ∀ key, left.get? key = right.get? key) :
    left = right := by
  obtain ⟨entries, increasing⟩ := left
  obtain ⟨entries', increasing'⟩ := right
  have same : entries = entries' := entries_ext increasing increasing' agree
  subst same
  rfl

@[simp] theorem get?_empty (key : String) : (empty : Dict α).get? key = none := rfl

theorem get?_insert (dict : Dict α) (key other : String) (value : α) :
    (dict.insert key value).get? other = if other = key then some value else dict.get? other :=
  find?_put key other value dict.entries

theorem get?_eq_some_iff {dict : Dict α} {key : String} {value : α} :
    dict.get? key = some value ↔ (key, value) ∈ dict.entries :=
  find?_eq_some_iff dict.increasing

theorem nodup_keys {entries : List (String × α)} (increasing : entries.Pairwise (fun a b => a.1 < b.1)) :
    (entries.map Prod.fst).Nodup := by
  rw [List.Nodup, List.pairwise_map]
  refine increasing.imp fun {first second} below same => ?_
  rw [same] at below
  exact String.lt_irrefl _ below

theorem perm_foldl_insert {dict : Dict α} {pairs : List (String × α)}
    (distinct : ((dict.entries ++ pairs).map Prod.fst).Nodup) :
    (pairs.foldl (fun dict pair => dict.insert pair.1 pair.2) dict).entries.Perm
      (dict.entries ++ pairs) := by
  induction pairs generalizing dict with
  | nil => rw [List.append_nil, List.foldl_nil]
  | cons pair rest ih =>
    have isNew : ∀ entry ∈ dict.entries, entry.1 ≠ pair.1 := by
      intro entry member
      rw [List.map_append, List.nodup_append] at distinct
      exact distinct.2.2 _ (List.mem_map_of_mem member) _ (.head _)
    have inserted : (dict.insert pair.1 pair.2).entries.Perm (pair :: dict.entries) :=
      perm_put isNew pair.2
    have moved : ((dict.insert pair.1 pair.2).entries ++ rest).Perm (dict.entries ++ pair :: rest) :=
      (inserted.append_right rest).trans List.perm_middle.symm
    rw [List.foldl_cons]
    exact (ih ((moved.map Prod.fst).nodup_iff.mpr distinct)).trans moved

theorem perm_entries_ofList {pairs : List (String × α)} (distinct : (pairs.map Prod.fst).Nodup) :
    (ofList pairs).entries.Perm pairs :=
  perm_foldl_insert distinct

theorem ofList_of_perm {pairs : List (String × α)} {dict : Dict α} (perm : pairs.Perm dict.entries) :
    ofList pairs = dict := by
  have distinct : (pairs.map Prod.fst).Nodup :=
    (perm.map Prod.fst).nodup_iff.mpr (nodup_keys dict.increasing)
  have same : (ofList pairs).entries = dict.entries :=
    ((perm_entries_ofList distinct).trans perm).eq_of_pairwise
      (fun _ _ _ _ below above => absurd (String.lt_trans below above) (String.lt_irrefl _))
      (ofList pairs).increasing dict.increasing
  cases dict
  cases same
  rfl

theorem get?_erase (dict : Dict α) (key other : String) :
    (dict.erase key).get? other = if other = key then none else dict.get? other := by
  have mem (value : α) : (dict.erase key).get? other = some value ↔
      dict.get? other = some value ∧ other ≠ key := by
    rw [get?_eq_some_iff, get?_eq_some_iff]
    simp [erase]
  split
  · next same =>
    cases found : (dict.erase key).get? other with
    | none => rfl
    | some value => exact absurd same ((mem value).mp found).2
  · next differs =>
    cases found : (dict.erase key).get? other with
    | none =>
      cases before : dict.get? other with
      | none => rfl
      | some value => rw [(mem value).mpr ⟨before, differs⟩] at found; cases found
    | some value => exact (((mem value).mp found).1).symm

theorem get?_filter (dict : Dict α) (keep : String → α → Bool) (key : String) :
    (dict.filter keep).get? key = (dict.get? key).filter (keep key) := by
  have mem (value : α) : (dict.filter keep).get? key = some value ↔
      dict.get? key = some value ∧ keep key value = true := by
    rw [get?_eq_some_iff, get?_eq_some_iff, filter, List.mem_filter]
  apply Option.ext
  intro value
  rw [mem, Option.filter_eq_some_iff]

instance [DecidableEq α] : DecidableEq (Dict α) := fun left right =>
  if same : left.entries = right.entries then
    isTrue (by cases left; cases right; cases same; rfl)
  else isFalse (fun equal => same (congrArg entries equal))

instance [Repr α] : Repr (Dict α) := ⟨fun dict depth => reprPrec dict.entries depth⟩

end Dict
end WireContract

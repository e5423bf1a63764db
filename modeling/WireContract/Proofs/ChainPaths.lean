import WireContract.Proofs.BodyPaths

/-!
Chains of properties and their paths. A path writes the keys of a chain one after another, and does not
escape what a key holds. Main statements: `resolve_chainPath`, that the path of a legible chain leads to the
values at the chain, `resolve_chainPath_iff`, that no other path does, and `chainPath_injective`.
-/

namespace WireContract

/-- A step of a chain: the key of a property, and whether the property is an array of items. -/
structure Link where
  key : String
  isArray : Bool
  deriving DecidableEq

namespace Link

def slot (link : Link) : String := if link.isArray then BodyPath.items link.key else link.key

def parts (link : Link) (value : Json) : List Json :=
  if link.isArray then
    match value.get? link.key with
    | some (.array items) => items
    | _ => []
  else (value.get? link.key).toList

structure Legible (link : Link) : Prop where
  undotted : '.' ∉ link.key.toList
  unmarked : link.isArray = false → BodyPath.arrayKey? link.key = none

end Link

namespace BodyPath

def chainPath (chain : List Link) : String := chain.foldl (fun path link => join path link.slot) ""

/-- The values at a chain in a body, in document order: for every choice of items on the way the member
under the last key, `null` where there is none. A falsy value holds nothing. -/
def valuesAt : List Link → Json → List Json
  | [], _ => []
  | [link], value => if value.isFalsy then [] else [(value.get? link.key).getD .null]
  | link :: next :: rest, value =>
    if value.isFalsy then [] else (link.parts value).flatMap (valuesAt (next :: rest))

structure Legible (chain : List Link) : Prop where
  links : ∀ link ∈ chain, link.Legible
  started : ∀ link ∈ chain.head?, link.slot ≠ ""

theorem slot_undotted_iff {link : Link} : '.' ∉ link.slot.toList ↔ '.' ∉ link.key.toList := by
  have mark : '.' ∉ arrayMark.toList := by decide
  unfold Link.slot items
  split <;> simp [String.toList_append, mark]

theorem arrayKey?_slot {link : Link} (legible : link.Legible) :
    arrayKey? link.slot = if link.isArray then some link.key else none := by
  unfold Link.slot
  split
  · exact arrayKey?_items link.key
  · next isPlain => exact legible.unmarked (Bool.eq_false_iff.mpr isPlain)

theorem through_slot {link : Link} (legible : link.Legible) (value : Json) :
    through link.slot value = link.parts value := by
  rw [through, arrayKey?_slot legible, Link.parts]
  cases isArray : link.isArray
  · simp [Link.slot, isArray]
  · rfl

theorem last_slot {link : Link} (legible : link.Legible) (notWhole : link.slot ≠ wholeBody) (value : Json) :
    last link.slot value = (value.get? link.key).getD .null := by
  have isKey : (arrayKey? link.slot).getD link.slot = link.key := by
    rw [arrayKey?_slot legible]
    cases isArray : link.isArray
    · simp [Link.slot, isArray]
    · rfl
  rw [last, isKey]
  simp [notWhole]

theorem resolve_slots {chain : List Link} (legible : ∀ link ∈ chain, link.Legible)
    (notWhole : ∀ link ∈ chain.getLast?, link.slot ≠ wholeBody) (body : Json) :
    resolve (chain.map Link.slot) body = valuesAt chain body := by
  induction chain generalizing body with
  | nil => rfl
  | cons link rest ih =>
    have own := legible link (.head _)
    cases rest with
    | nil =>
      have plain := last_slot own (notWhole link rfl) body
      rw [List.map_singleton, resolve_singleton, plain, valuesAt]
    | cons next rest =>
      have inner := ih (fun other member => legible other (.tail _ member)) notWhole
      rw [List.map_cons, resolve_cons link.slot (by simp), through_slot own, funext inner, valuesAt]

theorem segments_foldl {chain : List Link} (undotted : ∀ link ∈ chain, '.' ∉ link.key.toList) {path : String}
    (started : path ≠ "") :
    segments (chain.foldl (fun path link => join path link.slot) path) =
      segments path ++ chain.map Link.slot := by
  induction chain generalizing path with
  | nil => simp
  | cons link rest ih =>
    have joined : join path link.slot = path ++ "." ++ link.slot := by simp [join, started]
    have goesOn : path ++ "." ++ link.slot ≠ "" := by simp [started]
    have own := slot_undotted_iff.mpr (undotted link (.head _))
    rw [List.foldl_cons, joined, ih (fun other member => undotted other (.tail _ member)) goesOn,
      segments_dotted path own, List.append_assoc, List.singleton_append, List.map_cons]

theorem segments_chainPath {chain : List Link} (undotted : ∀ link ∈ chain, '.' ∉ link.key.toList)
    (field : chainPath chain ≠ "") :
    segments (chainPath chain) = (chain.map Link.slot).dropWhile (· == "") := by
  induction chain with
  | nil => exact absurd rfl field
  | cons link rest ih =>
    have first : join "" link.slot = link.slot := rfl
    by_cases isEmpty : link.slot = ""
    · have same : chainPath (link :: rest) = chainPath rest := by
        rw [chainPath, List.foldl_cons, first, isEmpty, chainPath]
      rw [same] at field ⊢
      rw [ih (fun other member => undotted other (.tail _ member)) field, List.map_cons, isEmpty]
      rfl
    · have own := slot_undotted_iff.mpr (undotted link (.head _))
      rw [chainPath, List.foldl_cons, first,
        segments_foldl (fun other member => undotted other (.tail _ member)) isEmpty,
        segments_of_undotted own, List.map_cons, List.dropWhile_cons_of_neg (by simpa using isEmpty)]
      rfl

theorem Legible.undotted {chain : List Link} (legible : Legible chain) :
    ∀ link ∈ chain, '.' ∉ link.key.toList :=
  fun link member => (legible.links link member).undotted

theorem Legible.segments_eq {chain : List Link} (legible : Legible chain) (field : chainPath chain ≠ "") :
    segments (chainPath chain) = chain.map Link.slot := by
  rw [segments_chainPath legible.undotted field]
  cases chain with
  | nil => rfl
  | cons link rest =>
    rw [List.map_cons, List.dropWhile_cons_of_neg (by simpa using legible.started link rfl)]

theorem resolve_chainPath {chain : List Link} (field : chainPath chain ≠ "") (legible : Legible chain)
    (notWhole : ∀ link ∈ chain.getLast?, link.slot ≠ wholeBody) (body : Json) :
    resolve (segments (chainPath chain)) body = valuesAt chain body := by
  rw [legible.segments_eq field, resolve_slots legible.links notWhole]

example : chainPath [⟨"tags", true⟩, ⟨"name", false⟩] = "tags[].name" ∧
    valuesAt [⟨"tags", true⟩, ⟨"name", false⟩]
      (.object [("tags", .array [.object [("name", .string "a")], .object [("id", .bool true)]])]) =
        [.string "a", .null] := ⟨rfl, rfl⟩

section Converse

/-- A body with a member under each key of a chain and nothing else, and a falsy value at the end, to which no
path leads any further. -/
def sole : List Link → Json
  | [] => .bool false
  | [link] => .object [(link.key, .bool false)]
  | link :: next :: rest =>
    .object [(link.key, if link.isArray then .array [sole (next :: rest)] else sole (next :: rest))]

theorem get?_singleton (key other : String) (value : Json) :
    (Json.object [(key, value)]).get? other = if key = other then some value else none := by
  by_cases same : key = other <;> simp [Json.get?, same]

theorem valuesAt_sole {chain : List Link} (nonempty : chain ≠ []) : valuesAt chain (sole chain) = [.bool false] := by
  induction chain with
  | nil => exact absurd rfl nonempty
  | cons link rest ih =>
    cases rest with
    | nil =>
      rw [valuesAt, sole, get?_singleton, if_pos rfl]
      rfl
    | cons next rest =>
      have inner := ih (List.cons_ne_nil next rest)
      rw [valuesAt, sole, Link.parts, get?_singleton, if_pos rfl]
      cases link.isArray
      · simpa [Json.isFalsy] using inner
      · simpa [Json.isFalsy] using inner

inductive Matches : List String → List Link → Prop
  | last {segment : String} {link : Link} (notWhole : segment ≠ wholeBody)
      (isKey : (arrayKey? segment).getD segment = link.key) : Matches [segment] [link]
  | step {link : Link} {segments : List String} {rest : List Link}
      (unmarked : link.isArray = false → arrayKey? link.key = none) (goesOn : Matches segments rest) :
      Matches (link.slot :: segments) (link :: rest)

theorem not_mem_resolve_array (segments : List String) (items : List Json) :
    .bool false ∉ resolve segments (.array items) := by
  intro isEnd
  cases segments with
  | nil => cases isEnd
  | cons segment rest =>
    cases rest with
    | nil =>
      rw [resolve_singleton] at isEnd
      have isLast : .bool false = last segment (.array items) := List.mem_singleton.mp isEnd
      unfold last at isLast
      split at isLast <;> cases isLast
    | cons next rest =>
      have nowhere : through segment (.array items) = [] := by
        unfold through
        split <;> rfl
      rw [resolve_cons segment (List.cons_ne_nil next rest), nowhere] at isEnd
      cases isEnd

theorem resolve_falsy (segments : List String) {value : Json} (falsy : value.isFalsy = true) :
    resolve segments value = [] := by
  cases segments with
  | nil => rfl
  | cons segment rest => rw [resolve, if_pos falsy]

/-- A segment leads through an object of one member only by its key. -/
theorem through_singleton {segment key : String} {value part : Json}
    (isPart : part ∈ through segment (.object [(key, value)])) :
    (arrayKey? segment = some key ∧ ∃ items, value = .array items ∧ part ∈ items) ∨
      (arrayKey? segment = none ∧ segment = key ∧ part = value) := by
  unfold through at isPart
  simp only [get?_singleton] at isPart
  cases marked : arrayKey? segment with
  | some name =>
    rw [marked] at isPart
    dsimp only at isPart
    split at isPart
    · next items found =>
      split at found
      · next same => exact .inl ⟨by rw [same], items, Option.some.inj found, isPart⟩
      · cases found
    · cases isPart
  | none =>
    rw [marked] at isPart
    obtain ⟨same, found⟩ := Option.ite_none_right_eq_some.mp (Option.mem_toList.mp isPart)
    exact .inr ⟨rfl, same.symm, (Option.some.inj found).symm⟩

theorem last_singleton {segment key : String} {value : Json}
    (isEnd : .bool false ∈ resolve [segment] (.object [(key, value)])) :
    segment ≠ wholeBody ∧ (arrayKey? segment).getD segment = key ∧ value = .bool false := by
  rw [resolve_singleton] at isEnd
  have isLast : .bool false = last segment (.object [(key, value)]) := List.mem_singleton.mp isEnd
  rw [last, get?_singleton] at isLast
  split at isLast
  · cases isLast
  · next notWhole =>
    split at isLast
    · next isKey => exact ⟨by simpa using notWhole, isKey.symm, isLast.symm⟩
    · cases isLast

theorem exists_sole_eq (link : Link) (rest : List Link) : ∃ members, sole (link :: rest) = .object members := by
  cases rest with
  | nil => exact ⟨_, rfl⟩
  | cons next rest => exact ⟨_, rfl⟩

theorem matches_of_resolve_end {link : Link} {segments : List String}
    (isEnd : .bool false ∈ resolve segments (sole [link])) : Matches segments [link] := by
  rw [sole] at isEnd
  cases segments with
  | nil => cases isEnd
  | cons segment others =>
    cases others with
    | nil =>
      obtain ⟨notWhole, isKey, _⟩ := last_singleton isEnd
      exact .last notWhole isKey
    | cons other others =>
      rw [resolve_cons segment (List.cons_ne_nil other others)] at isEnd
      obtain ⟨part, isPart, isEnd⟩ := List.mem_flatMap.mp isEnd
      rcases through_singleton isPart with ⟨_, _, isArray, _⟩ | ⟨_, _, rfl⟩
      · cases isArray
      · rw [resolve_falsy _ rfl] at isEnd
        cases isEnd

theorem slot_of_resolve_step {link next : Link} {rest : List Link} {segments : List String}
    (isEnd : .bool false ∈ resolve segments (sole (link :: next :: rest))) :
    ∃ others, segments = link.slot :: others ∧ (link.isArray = false → arrayKey? link.key = none) ∧
      .bool false ∈ resolve others (sole (next :: rest)) := by
  obtain ⟨members, isObject⟩ := exists_sole_eq next rest
  rw [sole] at isEnd
  cases segments with
  | nil => cases isEnd
  | cons segment others =>
    cases others with
    | nil =>
      obtain ⟨_, _, isFalse⟩ := last_singleton isEnd
      rw [isObject] at isFalse
      split at isFalse <;> cases isFalse
    | cons other others =>
      rw [resolve_cons segment (List.cons_ne_nil other others)] at isEnd
      obtain ⟨part, isPart, isEnd⟩ := List.mem_flatMap.mp isEnd
      refine ⟨other :: others, ?_⟩
      unfold Link.slot
      cases isArray : link.isArray with
      | false =>
        rw [isArray] at isPart
        rcases through_singleton isPart with ⟨_, items, isItems, _⟩ | ⟨unmarked, isKey, rfl⟩
        · rw [isObject] at isItems
          cases isItems
        · exact ⟨congrArg (· :: _) isKey, fun _ => isKey ▸ unmarked, isEnd⟩
      | true =>
        rw [isArray] at isPart
        rcases through_singleton isPart with ⟨marked, items, isItems, isItem⟩ | ⟨_, _, rfl⟩
        · obtain rfl := Json.array.inj isItems
          rw [List.mem_singleton.mp isItem] at isEnd
          exact ⟨congrArg (· :: _) (eq_items_of_arrayKey? marked), nofun, isEnd⟩
        · exact absurd isEnd (not_mem_resolve_array _ _)

theorem matches_of_resolve {chain : List Link} (nonempty : chain ≠ []) {segments : List String}
    (isEnd : .bool false ∈ resolve segments (sole chain)) : Matches segments chain := by
  induction chain generalizing segments with
  | nil => exact absurd rfl nonempty
  | cons link rest ih =>
    cases rest with
    | nil => exact matches_of_resolve_end isEnd
    | cons next rest =>
      obtain ⟨others, rfl, unmarked, isEnd⟩ := slot_of_resolve_step isEnd
      exact .step unmarked (ih (List.cons_ne_nil next rest) isEnd)

theorem undotted_key {segment : String} (undotted : '.' ∉ segment.toList) :
    '.' ∉ ((arrayKey? segment).getD segment).toList := by
  cases marked : arrayKey? segment with
  | none => exact undotted
  | some key =>
    rw [eq_items_of_arrayKey? marked, items, String.toList_append] at undotted
    exact fun dotted => undotted (List.mem_append_left _ dotted)

theorem Matches.undotted {segments : List String} {chain : List Link} (leads : Matches segments chain)
    (undotted : ∀ segment ∈ segments, '.' ∉ segment.toList) : ∀ link ∈ chain, '.' ∉ link.key.toList := by
  induction leads with
  | last notWhole isKey =>
    intro link isLink
    rw [List.mem_singleton.mp isLink, ← isKey]
    exact undotted_key (undotted _ (.head _))
  | step _ _ ih =>
    intro link isLink
    rcases List.mem_cons.mp isLink with rfl | later
    · exact slot_undotted_iff.mp (undotted _ (.head _))
    · exact ih (fun segment member => undotted segment (.tail _ member)) link later

theorem Matches.length_eq {segments : List String} {chain : List Link} (leads : Matches segments chain) :
    segments.length = chain.length := by
  induction leads with
  | last => rfl
  | step _ _ ih => rw [List.length_cons, List.length_cons, ih]

theorem unmarked_of_getD {key : String} (same : (arrayKey? key).getD key = key) : arrayKey? key = none := by
  cases marked : arrayKey? key with
  | none => rfl
  | some front =>
    rw [marked, Option.getD_some] at same
    have text := eq_items_of_arrayKey? marked
    rw [same, items] at text
    have lengths := congrArg String.length text
    rw [String.length_append] at lengths
    have marks : arrayMark.length = 2 := rfl
    omega

theorem Matches.unmarked {chain : List Link} (leads : Matches (chain.map Link.slot) chain) :
    (∀ link ∈ chain, link.isArray = false → arrayKey? link.key = none) ∧
      ∀ link ∈ chain.getLast?, link.slot ≠ wholeBody := by
  induction chain with
  | nil => cases leads
  | cons link rest ih =>
    generalize isSegments : (link :: rest).map Link.slot = segments at leads
    cases leads with
    | last notWhole isKey =>
      obtain ⟨rfl, _⟩ := List.cons.inj isSegments
      refine ⟨?_, fun other isLast => Option.some.inj isLast ▸ notWhole⟩
      intro other isLink isPlain
      rw [List.mem_singleton.mp isLink] at isPlain ⊢
      rw [Link.slot, isPlain] at isKey
      exact unmarked_of_getD isKey
    | step unmarked goesOn =>
      obtain ⟨_, rfl⟩ := List.cons.inj isSegments
      obtain ⟨restUnmarked, notWhole⟩ := ih goesOn
      refine ⟨List.forall_mem_cons.mpr ⟨unmarked, restUnmarked⟩, ?_⟩
      cases rest with
      | nil => cases goesOn
      | cons next rest => exact notWhole

/-- A path leads to the values at its chain, in every body, exactly if the chain is legible and does not end
in the mark of the whole body. -/
theorem resolve_chainPath_iff {chain : List Link} (field : chainPath chain ≠ "") :
    (∀ body, resolve (segments (chainPath chain)) body = valuesAt chain body) ↔
      Legible chain ∧ ∀ link ∈ chain.getLast?, link.slot ≠ wholeBody := by
  constructor
  · intro leads
    have nonempty : chain ≠ [] := by
      rintro rfl
      exact field rfl
    have isEnd : .bool false ∈ resolve (segments (chainPath chain)) (sole chain) := by
      rw [leads, valuesAt_sole nonempty]
      exact .head _
    have along := matches_of_resolve nonempty isEnd
    have undotted := along.undotted fun segment => undotted_of_mem_segments
    rw [segments_chainPath undotted field] at along
    obtain ⟨link, rest, rfl⟩ := List.exists_cons_of_ne_nil nonempty
    have started : link.slot ≠ "" := by
      intro isEmpty
      have shorter := along.length_eq
      rw [List.map_cons, List.dropWhile_cons_of_pos (by simpa using isEmpty), List.length_cons] at shorter
      have bound := (List.dropWhile_sublist (l := rest.map Link.slot) (· == "")).length_le
      rw [List.length_map] at bound
      omega
    rw [List.map_cons, List.dropWhile_cons_of_neg (by simpa using started), ← List.map_cons] at along
    obtain ⟨unmarked, notWhole⟩ := along.unmarked
    refine ⟨⟨fun other member => ⟨undotted other member, unmarked other member⟩, ?_⟩, notWhole⟩
    intro other isFirst
    rwa [← Option.some.inj isFirst]
  · rintro ⟨legible, notWhole⟩ body
    exact resolve_chainPath field legible notWhole body

end Converse

theorem foldl_join_ne_empty {chain : List Link} {path : String} (started : path ≠ "") :
    chain.foldl (fun path link => join path link.slot) path ≠ "" := by
  induction chain generalizing path with
  | nil => exact started
  | cons link rest ih =>
    rw [List.foldl_cons]
    apply ih
    simp [join, started]

theorem Legible.chainPath_eq_empty_iff {chain : List Link} (legible : Legible chain) :
    chainPath chain = "" ↔ chain = [] := by
  cases chain with
  | nil => exact iff_of_true rfl rfl
  | cons link rest =>
    have first : join "" link.slot = link.slot := rfl
    refine iff_of_false ?_ (List.cons_ne_nil link rest)
    rw [chainPath, List.foldl_cons, first]
    exact foldl_join_ne_empty (legible.started link rfl)

def readLink (segment : String) : Link := ⟨(arrayKey? segment).getD segment, (arrayKey? segment).isSome⟩

theorem readLink_slot {link : Link} (legible : link.Legible) : readLink link.slot = link := by
  rw [readLink, arrayKey?_slot legible]
  cases link with
  | mk key isArray => cases isArray <;> rfl

/-- Legible chains with one path are one chain. -/
theorem chainPath_injective {chain other : List Link} (legible : Legible chain) (otherLegible : Legible other)
    (same : chainPath chain = chainPath other) : chain = other := by
  have read {chain : List Link} (legible : Legible chain) : (chain.map Link.slot).map readLink = chain := by
    rw [List.map_map]
    exact List.map_congr_left (fun link member => readLink_slot (legible.links link member)) |>.trans
      (List.map_id chain)
  by_cases field : chainPath chain = ""
  · rw [legible.chainPath_eq_empty_iff.mp field, eq_comm, ← otherLegible.chainPath_eq_empty_iff, ← same, field]
  · have segmentsSame := congrArg segments same
    rw [legible.segments_eq field, otherLegible.segments_eq (same ▸ field)] at segmentsSame
    rw [← read legible, segmentsSame, read otherLegible]

end BodyPath
end WireContract

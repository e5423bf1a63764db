import WireContract.Proofs.BodyPaths
import WireContract.RuleSet

/-!
Fields of a body and what they reject. Fields on different paths do not meet, so that a list of them
rejects what one of its parts rejects, and fields below a segment reject what they reject in a value that
the segment leads to. Main statements: `rejects_append` and `rejects_below`.
-/

namespace WireContract

/-- A field of a body: the segments of its path, and what it adds to the rules there. -/
abbrev BodyField := List String × RuleSet

namespace BodyField

def under (route : List String) (field : BodyField) : BodyField := (route ++ field.1, field.2)

def rulesAt (path : List String) (fields : List BodyField) : RuleSet :=
  (fields.filter fun field => field.1 == path).foldl (fun rules field => rules.extend field.2) ∅

def Rejects (passes : Json → RuleSet → Prop) (fields : List BodyField) (body : Json) : Prop :=
  ∃ path, ∃ value ∈ BodyPath.resolve path body, ¬ passes value (rulesAt path fields)

variable {passes : Json → RuleSet → Prop}

theorem filter_of_absent {path : List String} {fields : List BodyField}
    (absent : ∀ field ∈ fields, field.1 ≠ path) :
    fields.filter (fun field => field.1 == path) = [] := by
  apply List.filter_eq_nil_iff.mpr
  intro field member
  simpa using absent field member

theorem rulesAt_of_absent {path : List String} {fields : List BodyField}
    (absent : ∀ field ∈ fields, field.1 ≠ path) : rulesAt path fields = ∅ := by
  rw [rulesAt, filter_of_absent absent, List.foldl_nil]

theorem rulesAt_append_of_absent_left {path : List String} {front back : List BodyField}
    (absent : ∀ field ∈ front, field.1 ≠ path) : rulesAt path (front ++ back) = rulesAt path back := by
  rw [rulesAt, List.filter_append, filter_of_absent absent, List.nil_append, rulesAt]

theorem rulesAt_append_of_absent_right {path : List String} {front back : List BodyField}
    (absent : ∀ field ∈ back, field.1 ≠ path) : rulesAt path (front ++ back) = rulesAt path front := by
  rw [rulesAt, List.filter_append, filter_of_absent absent, List.append_nil, rulesAt]

theorem exists_of_fails (lenient : ∀ value, passes value ∅) {path : List String}
    {fields : List BodyField} {value : Json} (failed : ¬ passes value (rulesAt path fields)) :
    ∃ field ∈ fields, field.1 = path := by
  apply Classical.byContradiction
  intro nothing
  have absent : ∀ field ∈ fields, field.1 ≠ path := by
    intro field member same
    exact nothing ⟨field, member, same⟩
  rw [rulesAt_of_absent absent] at failed
  exact failed (lenient value)

theorem not_rejects_nil (lenient : ∀ value, passes value ∅) (body : Json) : ¬ Rejects passes [] body := by
  rintro ⟨path, value, _, failed⟩
  exact failed (lenient value)

theorem rejects_append (lenient : ∀ value, passes value ∅) {front back : List BodyField}
    (apart : ∀ one ∈ front, ∀ other ∈ back, one.1 ≠ other.1) (body : Json) :
    Rejects passes (front ++ back) body ↔ Rejects passes front body ∨ Rejects passes back body := by
  constructor
  · rintro ⟨path, value, reached, failed⟩
    by_cases present : ∃ field ∈ front, field.1 = path
    · obtain ⟨field, member, rfl⟩ := present
      have absent : ∀ other ∈ back, other.1 ≠ field.1 := fun other found =>
        (apart field member other found).symm
      rw [rulesAt_append_of_absent_right absent] at failed
      exact .inl ⟨field.1, value, reached, failed⟩
    · have absent : ∀ field ∈ front, field.1 ≠ path := fun field member same =>
        present ⟨field, member, same⟩
      rw [rulesAt_append_of_absent_left absent] at failed
      exact .inr ⟨path, value, reached, failed⟩
  · rintro (⟨path, value, reached, failed⟩ | ⟨path, value, reached, failed⟩)
    · obtain ⟨field, member, rfl⟩ := exists_of_fails lenient failed
      have absent : ∀ other ∈ back, other.1 ≠ field.1 := fun other found =>
        (apart field member other found).symm
      refine ⟨field.1, value, reached, ?_⟩
      rw [rulesAt_append_of_absent_right absent]
      exact failed
    · obtain ⟨field, member, rfl⟩ := exists_of_fails lenient failed
      have absent : ∀ other ∈ front, other.1 ≠ field.1 := fun other found =>
        apart other found field member
      refine ⟨field.1, value, reached, ?_⟩
      rw [rulesAt_append_of_absent_left absent]
      exact failed

theorem rejects_together (lenient : ∀ value, passes value ∅) (path : List String)
    (all : List RuleSet) (body : Json) :
    Rejects passes (all.map fun rules => (path, rules)) body ↔
      ∃ value ∈ BodyPath.resolve path body, ¬ passes value (all.foldl RuleSet.extend ∅) := by
  have rules : rulesAt path (all.map fun rules => (path, rules)) = all.foldl RuleSet.extend ∅ := by
    have kept : (all.map fun rules => (path, rules)).filter (fun field => field.1 == path) =
        all.map fun rules => (path, rules) := by
      apply List.filter_eq_self.mpr
      intro field member
      obtain ⟨rules, _, rfl⟩ := List.mem_map.mp member
      exact beq_self_eq_true path
    rw [rulesAt, kept, List.foldl_map]
  constructor
  · rintro ⟨other, value, reached, failed⟩
    obtain ⟨field, member, rfl⟩ := exists_of_fails lenient failed
    obtain ⟨_, _, rfl⟩ := List.mem_map.mp member
    exact ⟨value, reached, rules ▸ failed⟩
  · rintro ⟨value, reached, failed⟩
    exact ⟨path, value, reached, rules ▸ failed⟩

theorem rulesAt_under (route path : List String) (fields : List BodyField) :
    rulesAt (route ++ path) (fields.map (under route)) = rulesAt path fields := by
  have kept : (fields.map (under route)).filter (fun field => field.1 == route ++ path) =
      (fields.filter fun field => field.1 == path).map (under route) := by
    rw [List.filter_map]
    congr 1
    apply List.filter_congr
    intro field _
    apply Bool.eq_iff_iff.mpr
    simp [under]
  rw [rulesAt, kept, List.foldl_map]
  rfl

/-- Fields below a segment reject what they reject in a value that the segment leads to. -/
theorem rejects_below (lenient : ∀ value, passes value ∅) (segment : String)
    {fields : List BodyField} (deeper : ∀ field ∈ fields, field.1 ≠ []) (body : Json) :
    Rejects passes (fields.map (under [segment])) body ↔
      body.isFalsy = false ∧ ∃ part ∈ BodyPath.through segment body, Rejects passes fields part := by
  constructor
  · rintro ⟨path, value, reached, failed⟩
    obtain ⟨field, member, rfl⟩ := exists_of_fails lenient failed
    obtain ⟨inner, isInner, rfl⟩ := List.mem_map.mp member
    rw [under, rulesAt_under] at failed
    rw [under, List.singleton_append, BodyPath.resolve_cons segment (deeper inner isInner)] at reached
    by_cases isFalsy : body.isFalsy = true
    · rw [if_pos isFalsy] at reached
      cases reached
    · rw [if_neg isFalsy] at reached
      obtain ⟨part, isPart, reached⟩ := List.mem_flatMap.mp reached
      exact ⟨by simpa using isFalsy, part, isPart, inner.1, value, reached, failed⟩
  · rintro ⟨notFalsy, part, isPart, path, value, reached, failed⟩
    obtain ⟨field, member, rfl⟩ := exists_of_fails lenient failed
    refine ⟨[segment] ++ field.1, value, ?_, ?_⟩
    · rw [List.singleton_append, BodyPath.resolve_cons segment (deeper field member), notFalsy]
      exact List.mem_flatMap.mpr ⟨part, isPart, reached⟩
    · rw [rulesAt_under]
      exact failed

end BodyField
end WireContract

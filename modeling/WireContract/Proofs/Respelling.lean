import Mathlib.Logic.Relation
import WireContract.Proofs.BodyPaths
import WireContract.Proofs.LetterCase

/-!
Keys that come to one name in generated code. Such keys are spellings of each other: the case of the first letter
does not count, an underscore stands for the upper case of what follows it, and one at the end for nothing.
Main statements: `camel_eq_iff` and `propertyName_eq_iff`.
-/

namespace WireContract
namespace Text

inductive Respells : List Char → List Char → Prop
  /-- with its first letter in lower case -/
  | first (c : Char) (rest : List Char) : Respells (c :: rest) (c.toLower :: rest)
  /-- with the upper case of a character in the place of an underscore and that character -/
  | mark (front : List Char) (c : Char) (back : List Char) :
      Respells (front ++ '_' :: c :: back) (front ++ c.toUpper :: back)
  /-- without the underscore at its end -/
  | last (front : List Char) : Respells (front ++ ['_']) front

/-- The rest of a name in camel case, character by character; `begins` says that a word begins. -/
def humps (begins : Bool) : List Char → List Char
  | [] => []
  | c :: rest =>
    if c = '_' then humps true rest else (if begins then c.toUpper else c) :: humps false rest

def camel : List Char → List Char
  | [] => []
  | c :: rest => if c = '_' then camel rest else c.toLower :: humps false rest

section Pieces

theorem humps_eq {begins : Bool} {text piece : List Char} {pieces : List (List Char)}
    (split : text.splitOn '_' = piece :: pieces) :
    humps begins text =
      (if begins then upperHead piece else piece) ++
        (pieces.filter fun piece => !piece.isEmpty).flatMap upperHead := by
  induction text generalizing begins piece pieces with
  | nil =>
    cases split
    cases begins <;> rfl
  | cons c rest ih =>
    obtain ⟨next, others, later⟩ := List.exists_cons_of_ne_nil (List.splitOn_ne_nil '_' rest)
    by_cases isMark : c = '_'
    · rw [isMark, splitOn_cons_self, later] at split
      cases split
      rw [humps, if_pos isMark, ih later]
      -- a piece that is empty adds nothing
      cases begins <;> cases next <;> rfl
    · rw [splitOn_cons_of_ne isMark later] at split
      cases split
      rw [humps, if_neg isMark, ih later]
      cases begins <;> rfl

theorem camel_eq (text : List Char) :
    camel text =
      match (text.splitOn '_').filter fun piece => !piece.isEmpty with
      | [] => []
      | first :: rest => lowerHead first ++ rest.flatMap upperHead := by
  induction text with
  | nil => rfl
  | cons c rest ih =>
    by_cases isMark : c = '_'
    · rw [camel, if_pos isMark, ih, isMark, splitOn_cons_self]
      rfl
    · obtain ⟨next, others, later⟩ := List.exists_cons_of_ne_nil (List.splitOn_ne_nil '_' rest)
      rw [camel, if_neg isMark, splitOn_cons_of_ne isMark later, humps_eq later]
      rfl

theorem lowerCamel_eq {name : String} (snake : ∀ c ∈ name.toList, isSnakeChar c = true) :
    lowerCamel name = String.ofList (camel name.toList) := by
  rw [lowerCamel, if_pos (List.all_eq_true.mpr snake), camel_eq]
  cases (name.toList.splitOn '_').filter fun piece => !piece.isEmpty <;> rfl

end Pieces

section Spelling

variable {text other : List Char}

/-- What is behind the same characters counts the same, if it does at the start and further on. -/
theorem camel_append (front : List Char) (same : camel text = camel other)
    (further : ∀ begins, humps begins text = humps begins other) :
    camel (front ++ text) = camel (front ++ other) := by
  have behind (begins : Bool) (front : List Char) :
      humps begins (front ++ text) = humps begins (front ++ other) := by
    induction front generalizing begins with
    | nil => exact further begins
    | cons c rest ih => rw [List.cons_append, List.cons_append, humps, humps, ih, ih]
  induction front with
  | nil => exact same
  | cons c rest ih => rw [List.cons_append, List.cons_append, camel, camel, ih, behind]

theorem humps_mark (begins : Bool) (c : Char) (back : List Char) :
    humps begins ('_' :: c :: back) = humps begins (c.toUpper :: back) := by
  rw [humps, if_pos rfl, humps, humps]
  by_cases isMark : c = '_'
  · rw [if_pos isMark, if_pos (toUpper_eq_underscore_iff.mpr isMark)]
  · rw [if_neg isMark, if_neg (mt toUpper_eq_underscore_iff.mp isMark), if_pos rfl, toUpper_toUpper, ite_self]

theorem camel_mark (c : Char) (back : List Char) :
    camel ('_' :: c :: back) = camel (c.toUpper :: back) := by
  rw [camel, if_pos rfl, camel, camel]
  by_cases isMark : c = '_'
  · rw [if_pos isMark, if_pos (toUpper_eq_underscore_iff.mpr isMark)]
  · rw [if_neg isMark, if_neg (mt toUpper_eq_underscore_iff.mp isMark), toLower_toUpper]

theorem camel_of_respells (respells : Respells text other) : camel text = camel other := by
  cases respells with
  | first c rest =>
    rw [camel, camel]
    by_cases isMark : c = '_'
    · rw [if_pos isMark, if_pos (toLower_eq_underscore_iff.mpr isMark)]
    · rw [if_neg isMark, if_neg (mt toLower_eq_underscore_iff.mp isMark), toLower_toLower]
  | mark front c back => exact camel_append front (camel_mark c back) fun begins => humps_mark begins c back
  | last =>
    have same : camel (other ++ ['_']) = camel (other ++ []) := camel_append other rfl fun _ => rfl
    rw [same, List.append_nil]

theorem respells_humps (front text : List Char) :
    Relation.EqvGen Respells (front ++ text) (front ++ humps false text) ∧
      Relation.EqvGen Respells (front ++ '_' :: text) (front ++ humps true text) := by
  induction text generalizing front with
  | nil =>
    refine ⟨.refl _, ?_⟩
    rw [humps, List.append_nil]
    exact .rel _ _ (.last front)
  | cons c rest ih =>
    rw [humps, humps]
    by_cases isMark : c = '_'
    · subst isMark
      rw [if_pos rfl, if_pos rfl]
      exact ⟨(ih front).2, .trans _ _ _ (.rel _ _ (.mark front '_' rest)) (ih front).2⟩
    · have behind (d : Char) : Relation.EqvGen Respells (front ++ d :: rest)
          (front ++ d :: humps false rest) := by
        simpa using (ih (front ++ [d])).1
      rw [if_neg isMark, if_neg isMark]
      exact ⟨behind c, .trans _ _ _ (.rel _ _ (.mark front c rest)) (behind c.toUpper)⟩

theorem respells_camel (text : List Char) : Relation.EqvGen Respells text (camel text) := by
  induction text with
  | nil => exact .refl _
  | cons c rest ih =>
    rw [camel]
    split
    · next isMark =>
      subst isMark
      refine .trans _ _ _ ?_ ih
      cases rest with
      | nil => exact .rel _ _ (.last [])
      | cons d rest =>
        -- both have the same first letter in lower case
        have lower := Respells.first d.toUpper rest
        rw [toLower_toUpper] at lower
        exact .trans _ _ _ (.rel _ _ (.mark [] d rest))
          (.trans _ _ _ (.rel _ _ lower) (.symm _ _ (.rel _ _ (.first d rest))))
    · exact .trans _ _ _ (.rel _ _ (.first c rest)) (respells_humps [c.toLower] rest).1

/-- Names come to the same in camel case exactly if they are spellings of each other. -/
theorem camel_eq_iff : camel text = camel other ↔ Relation.EqvGen Respells text other := by
  constructor
  · intro same
    refine .trans _ _ _ (respells_camel text) ?_
    rw [same]
    exact .symm _ _ (respells_camel other)
  · intro alike
    induction alike with
    | rel _ _ respells => exact camel_of_respells respells
    | refl _ => rfl
    | symm _ _ _ ih => exact ih.symm
    | trans _ _ _ _ _ first second => exact first.trans second

end Spelling

section Keys

structure IsSnake (key : String) : Prop where
  chars : ∀ c ∈ key.toList, isSnakeChar c = true
  letter : ∃ c ∈ key.toList, c ≠ '_'

def SpelledAlike (key other : String) : Prop :=
  IsSnake key ∧ IsSnake other ∧ Relation.EqvGen Respells key.toList other.toList

/-- The name that a key has in generated code: the key in camel case, if that leaves anything of it. -/
def propertyName (key : String) : String := if lowerCamel key = "" then key else lowerCamel key

theorem isSnakeChar_of_mem_camel {text : List Char} (snake : ∀ c ∈ text, isSnakeChar c = true) {c : Char}
    (isMember : c ∈ camel text) : isSnakeChar c = true ∧ c ≠ '_' := by
  have ofHumps {begins : Bool} {text : List Char} (snake : ∀ c ∈ text, isSnakeChar c = true)
      (isMember : c ∈ humps begins text) : isSnakeChar c = true ∧ c ≠ '_' := by
    induction text generalizing begins with
    | nil => cases isMember
    | cons first rest ih =>
      have others : ∀ c ∈ rest, isSnakeChar c = true := fun c isLater => snake c (.tail _ isLater)
      have own := snake first (.head _)
      rw [humps] at isMember
      split at isMember
      · exact ih others isMember
      · next differs =>
        rcases List.mem_cons.mp isMember with rfl | isLater
        · split
          · rw [isSnakeChar_toUpper, ne_eq, toUpper_eq_underscore_iff]
            exact ⟨own, differs⟩
          · exact ⟨own, differs⟩
        · exact ih others isLater
  induction text with
  | nil => cases isMember
  | cons first rest ih =>
    have others : ∀ c ∈ rest, isSnakeChar c = true := fun c isLater => snake c (.tail _ isLater)
    rw [camel] at isMember
    split at isMember
    · exact ih others isMember
    · next differs =>
      rcases List.mem_cons.mp isMember with rfl | isLater
      · rw [isSnakeChar_toLower, ne_eq, toLower_eq_underscore_iff]
        exact ⟨snake first (.head _), differs⟩
      · exact ofHumps others isLater

theorem camel_eq_nil_iff {text : List Char} : camel text = [] ↔ ∀ c ∈ text, c = '_' := by
  induction text with
  | nil => simp [camel]
  | cons c rest ih =>
    rw [camel]
    split
    · next isMark => simp [ih, isMark]
    · next differs => simp [differs]

variable {key other : String}

theorem IsSnake.propertyName_eq (snake : IsSnake key) :
    propertyName key = String.ofList (camel key.toList) := by
  obtain ⟨c, isMember, differs⟩ := snake.letter
  have some : camel key.toList ≠ [] := fun none => differs (camel_eq_nil_iff.mp none c isMember)
  rw [propertyName, lowerCamel_eq snake.chars, if_neg (by simpa using some)]

theorem propertyName_of_not_snake (isOther : ¬ IsSnake key) : propertyName key = key := by
  rw [propertyName]
  by_cases chars : ∀ c ∈ key.toList, isSnakeChar c = true
  · have underscores : ∀ c ∈ key.toList, c = '_' := by
      intro c isMember
      by_cases isMark : c = '_'
      · exact isMark
      · exact absurd ⟨chars, c, isMember, isMark⟩ isOther
    rw [lowerCamel_eq chars, camel_eq_nil_iff.mpr underscores, if_pos rfl]
  · rw [lowerCamel, if_neg (mt List.all_eq_true.mp chars), ite_self]

theorem IsSnake.propertyName_ne (snake : IsSnake key) (isOther : ¬ IsSnake other) :
    propertyName key ≠ propertyName other := by
  rw [snake.propertyName_eq, propertyName_of_not_snake isOther]
  rintro rfl
  refine isOther ⟨?_, ?_⟩
  · intro c isMember
    rw [String.toList_ofList] at isMember
    exact (isSnakeChar_of_mem_camel snake.chars isMember).1
  · rw [String.toList_ofList]
    obtain ⟨c, isMember, differs⟩ := snake.letter
    cases found : camel key.toList with
    | nil => exact absurd (camel_eq_nil_iff.mp found c isMember) differs
    | cons first rest =>
      have isFirst : first ∈ camel key.toList := found ▸ .head _
      exact ⟨first, .head _, (isSnakeChar_of_mem_camel snake.chars isFirst).2⟩

/-- Two keys have one name in generated code exactly if they are equal or spellings of each other. -/
theorem propertyName_eq_iff : propertyName key = propertyName other ↔ key = other ∨ SpelledAlike key other := by
  by_cases snake : IsSnake key <;> by_cases isOther : IsSnake other
  · rw [snake.propertyName_eq, isOther.propertyName_eq, String.ofList_inj, camel_eq_iff]
    refine ⟨fun alike => .inr ⟨snake, isOther, alike⟩, ?_⟩
    rintro (rfl | ⟨_, _, alike⟩)
    · exact .refl _
    · exact alike
  · refine iff_of_false (snake.propertyName_ne isOther) ?_
    rintro (rfl | ⟨_, alike, _⟩)
    · exact isOther snake
    · exact isOther alike
  · refine iff_of_false (isOther.propertyName_ne snake).symm ?_
    rintro (rfl | ⟨alike, _⟩)
    · exact snake isOther
    · exact snake alike
  · rw [propertyName_of_not_snake snake, propertyName_of_not_snake isOther]
    exact (or_iff_left fun alike => snake alike.1).symm

end Keys

end Text
end WireContract

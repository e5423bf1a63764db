import Mathlib.Data.List.Destutter
import WireContract.Proofs.BodyPaths
import WireContract.Proofs.OperationIds

namespace WireContract

namespace Document

section Slashes

/-- Characters that are left side by side: any but two slashes. -/
def Apart (c next : Char) : Prop := ¬ (c = '/' ∧ next = '/')

instance : DecidableRel Apart := fun _ _ => inferInstanceAs (Decidable (¬ _))

/-- From the left, a character is kept if it can stand behind the last one that was kept. -/
theorem dropRepeated_eq_destutter (text : List Char) : dropRepeated text = text.destutter Apart := by
  cases text with
  | nil => rfl
  | cons c rest =>
    rw [List.destutter_cons']
    induction rest generalizing c with
    | nil => simp [dropRepeated]
    | cons next rest ih =>
      by_cases repeated : c = '/' ∧ next = '/'
      · obtain ⟨rfl, rfl⟩ := repeated
        rw [List.destutter'_cons_neg _ (fun apart => apart ⟨rfl, rfl⟩), ← ih '/', dropRepeated]
        simp
      · rw [List.destutter'_cons_pos _ repeated, ← ih next, dropRepeated]
        simpa using repeated

theorem single_dropRepeated (text : List Char) : ¬ ['/', '/'] <:+: dropRepeated text := by
  rintro ⟨front, back, parts⟩
  have apart := List.isChain_destutter Apart text
  rw [← dropRepeated_eq_destutter, ← parts] at apart
  exact List.isChain_pair.mp apart.left_of_append.right_of_append ⟨rfl, rfl⟩

def withPrevious (text : List Char) : List (Option Char × Char) := (none :: text.map some).zip text

/-- Dropped are the slashes behind a slash, and nothing else. -/
theorem dropRepeated_eq_filter (text : List Char) :
    dropRepeated text = ((withPrevious text).filter (· != (some '/', '/'))).map Prod.snd := by
  cases text with
  | nil => rfl
  | cons c rest =>
    have first : ((none, c) != (some '/', '/')) = true := rfl
    rw [withPrevious, List.map_cons, List.zip_cons_cons, List.filter_cons, if_pos first, List.map_cons]
    -- of a run of slashes the last is kept on the left, the first on the right
    induction rest generalizing c with
    | nil => simp [dropRepeated]
    | cons next rest ih =>
      rw [List.map_cons, List.zip_cons_cons, dropRepeated, ih next rfl, List.filter_cons]
      by_cases repeated : c = '/' ∧ next = '/'
      · obtain ⟨rfl, rfl⟩ := repeated
        simp
      · rw [if_neg (by simpa using repeated), if_pos (by simpa using repeated), List.map_cons]

theorem head?_dropRepeated (text : List Char) : (dropRepeated text).head? = text.head? := by
  induction text with
  | nil => rfl
  | cons c rest ih =>
    rw [dropRepeated]
    split
    · next dropped =>
      obtain ⟨isSlash, isNext⟩ := Bool.and_eq_true_iff.mp dropped
      rw [ih, beq_iff_eq.mp isNext, List.head?_cons, of_decide_eq_true isSlash]
    · rfl

theorem getLast?_dropRepeated (text : List Char) : (dropRepeated text).getLast? = text.getLast? := by
  induction text with
  | nil => rfl
  | cons c rest ih =>
    rw [dropRepeated, List.getLast?_cons]
    split
    · next dropped =>
      obtain ⟨more, rfl⟩ := List.head?_eq_some_iff.mp (beq_iff_eq.mp (Bool.and_eq_true_iff.mp dropped).2)
      rw [ih, List.getLast?_cons, Option.getD_some]
    · rw [List.getLast?_cons, ih]

end Slashes

section Segments

def pieces (text : List Char) : List (List Char) :=
  (text.splitOn '/').filter fun piece => !piece.isEmpty

theorem pieces_slash (text : List Char) : pieces ('/' :: text) = pieces text := by
  rw [pieces, Text.splitOn_cons_self, pieces]
  rfl

theorem pieces_append (front back : List Char) :
    pieces (front ++ '/' :: back) = pieces front ++ pieces back := by
  rw [pieces, List.splitOn_append_cons_self, List.filter_append, pieces, pieces]

theorem splitOn_dropRepeated (text : List Char) :
    ∃ first later kept, text.splitOn '/' = first :: later ∧
      (dropRepeated text).splitOn '/' = first :: kept ∧
      (kept.filter fun piece => !piece.isEmpty) = later.filter fun piece => !piece.isEmpty := by
  induction text with
  | nil => exact ⟨[], [], [], rfl, rfl, rfl⟩
  | cons c rest ih =>
    obtain ⟨first, later, kept, isSplit, isKept, same⟩ := ih
    rw [dropRepeated]
    by_cases isSlash : c = '/'
    · subst isSlash
      rw [Text.splitOn_cons_self, isSplit]
      by_cases isNext : rest.head? = some '/'
      · obtain ⟨more, rfl⟩ := List.head?_eq_some_iff.mp isNext
        rw [Text.splitOn_cons_self] at isSplit
        obtain ⟨rfl, rfl⟩ := List.cons.inj isSplit
        exact ⟨[], _, kept, rfl, by simpa using isKept, same⟩
      · refine ⟨[], first :: later, first :: kept, rfl, ?_, ?_⟩
        · rw [if_neg (by simpa using isNext), Text.splitOn_cons_self, isKept]
        · rw [List.filter_cons, List.filter_cons, same]
    · refine ⟨c :: first, later, kept, Text.splitOn_cons_of_ne isSlash isSplit, ?_, same⟩
      rw [if_neg (by simp [isSlash]), Text.splitOn_cons_of_ne isSlash isKept]

theorem pieces_dropRepeated (text : List Char) : pieces (dropRepeated text) = pieces text := by
  obtain ⟨first, later, kept, isSplit, isKept, same⟩ := splitOn_dropRepeated text
  rw [pieces, pieces, isSplit, isKept, List.filter_cons, List.filter_cons, same]

def segments (path : String) : List String := (pieces path.toList).map String.ofList

theorem segments_collapseSlashes (path : String) : segments (collapseSlashes path) = segments path := by
  rw [segments, collapseSlashes, String.toList_ofList, pieces_dropRepeated, segments]

theorem segments_append (front : String) {path : String} (rooted : path.toList.head? = some '/') :
    segments (front ++ path) = segments front ++ segments path := by
  obtain ⟨rest, isPath⟩ := List.head?_eq_some_iff.mp rooted
  rw [segments, String.toList_append, isPath, pieces_append, ← pieces_slash rest, ← isPath,
    List.map_append, segments, segments]

end Segments

variable {document : Document} {path : String}

def base (document : Document) : String := document.basePath.getD ""

/-- A base path that is a slash alone is left out, which makes no difference in front of a slash. -/
theorem fullUrl_eq (rooted : path.toList.head? = some '/') :
    document.fullUrl path = collapseSlashes (document.base ++ path) := by
  obtain ⟨rest, isPath⟩ := List.head?_eq_some_iff.mp rooted
  unfold fullUrl base
  cases document.basePath with
  | none => rw [Option.getD_none, String.empty_append]
  | some base =>
    rw [Option.getD_some]
    by_cases isEmpty : base = ""
    · subst isEmpty
      rw [String.empty_append]
      rfl
    · by_cases isSlash : base = "/"
      · subst isSlash
        have doubled : dropRepeated ('/' :: '/' :: rest) = dropRepeated ('/' :: rest) := by
          conv => lhs; rw [dropRepeated]
          rfl
        have slash : "/".toList = ['/'] := rfl
        rw [collapseSlashes, collapseSlashes, String.toList_append, isPath, slash, List.singleton_append,
          doubled]
        rfl
      · exact if_neg (by simp [isEmpty, isSlash])

/-- Where paths start with a slash, a full URL has the names of the base path and then those of the path
between its slashes, no two slashes in a row, and a slash at its start and its end where base path and path
have one there. Collapsing drops the slashes that stand behind a slash and nothing else, and drops nothing
when done again. -/
theorem full_urls_keep_segments (document : Document) :
    (∀ path : String, path.toList.head? = some '/' →
      ¬ ['/', '/'] <:+: (document.fullUrl path).toList ∧
      segments (document.fullUrl path) = segments document.base ++ segments path ∧
      (document.fullUrl path).toList.head? = (document.base ++ path).toList.head? ∧
      (document.fullUrl path).toList.getLast? = path.toList.getLast?) ∧
    ∀ text : String,
      collapseSlashes (collapseSlashes text) = collapseSlashes text ∧
      (collapseSlashes text).toList =
        ((withPrevious text.toList).filter (· != (some '/', '/'))).map Prod.snd := by
  constructor
  · intro path rooted
    rw [fullUrl_eq rooted]
    refine ⟨?single, ?names, ?start, ?stop⟩
    case single =>
      rw [collapseSlashes, String.toList_ofList]
      apply single_dropRepeated
    case names => rw [segments_collapseSlashes, segments_append _ rooted]
    case start => rw [collapseSlashes, String.toList_ofList, head?_dropRepeated]
    case stop =>
      obtain ⟨rest, isPath⟩ := List.head?_eq_some_iff.mp rooted
      rw [collapseSlashes, String.toList_ofList, getLast?_dropRepeated, String.toList_append, isPath,
        List.getLast?_append, List.getLast?_cons, Option.some_or]
  · intro text
    constructor
    · rw [collapseSlashes, collapseSlashes, String.toList_ofList,
        dropRepeated_of_single (single_dropRepeated _)]
    · rw [collapseSlashes, String.toList_ofList]
      apply dropRepeated_eq_filter

end Document

namespace Catalogue

def document : Document := { Document.empty with basePath := some "//v1//" }

theorem catalogue_url :
    "//items//new/".toList.head? = some '/' ∧
      Document.segments (document.fullUrl "//items//new/") = ["v1", "items", "new"] ∧
      (document.fullUrl "//items//new/").toList.getLast? = some '/' := by
  have rooted : "//items//new/".toList.head? = some '/' := by decide
  obtain ⟨_, names, _, stop⟩ := document.full_urls_keep_segments.1 _ rooted
  have ofBase : Document.segments document.base = ["v1"] := by decide
  have ofPath : Document.segments "//items//new/" = ["items", "new"] := by decide
  rw [names, stop, ofBase, ofPath]
  exact ⟨rooted, rfl, by decide⟩

end Catalogue

end WireContract

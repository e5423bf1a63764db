import Mathlib.Data.List.Infix
import WireContract.Request.BodyPath
import WireContract.Text.Basic

namespace WireContract

namespace Text

theorem splitOn_cons_self (mark : Char) (text : List Char) :
    (mark :: text).splitOn mark = [] :: text.splitOn mark := by
  rw [List.splitOn_cons_eq_if_modifyHead, if_pos BEq.rfl]

theorem splitOn_cons_of_ne {mark c : Char} (differs : c ≠ mark) {text piece : List Char}
    {pieces : List (List Char)} (split : text.splitOn mark = piece :: pieces) :
    (c :: text).splitOn mark = (c :: piece) :: pieces := by
  rw [List.splitOn_cons_eq_if_modifyHead, if_neg (by simpa using differs), split, List.modifyHead_cons]

theorem not_mem_of_mem_splitOn {mark : Char} {text piece : List Char}
    (isPiece : piece ∈ text.splitOn mark) : mark ∉ piece := by
  induction text generalizing piece with
  | nil =>
    rw [List.splitOn_nil] at isPiece
    rw [List.mem_singleton.mp isPiece]
    exact List.not_mem_nil
  | cons c rest ih =>
    by_cases isMark : c = mark
    · subst isMark
      rw [splitOn_cons_self] at isPiece
      rcases List.mem_cons.mp isPiece with rfl | later
      · exact List.not_mem_nil
      · exact ih later
    · obtain ⟨first, pieces, split⟩ := List.exists_cons_of_ne_nil (List.splitOn_ne_nil mark rest)
      rw [splitOn_cons_of_ne isMark split] at isPiece
      rw [split] at ih
      rcases List.mem_cons.mp isPiece with rfl | later
      · exact List.not_mem_cons_of_ne_of_not_mem (Ne.symm isMark) (ih (.head _))
      · exact ih (.tail _ later)

end Text

namespace BodyPath

/-- What a property can be called for a path to lead to it. -/
structure IsKey (key : String) : Prop where
  nonempty : key ≠ ""
  undotted : '.' ∉ key.toList
  unmarked : arrayKey? key = none
  notWhole : key ≠ wholeBody

theorem arrayKey?_items (key : String) : arrayKey? (items key) = some key := by
  rw [arrayKey?, items, String.toList_append, List.isSuffixOf?_eq_some_iff_append_eq.mpr rfl,
    Option.map_some, String.ofList_toList]

theorem eq_items_of_arrayKey? {segment key : String} (marked : arrayKey? segment = some key) :
    segment = items key := by
  obtain ⟨front, found, rfl⟩ := Option.map_eq_some_iff.mp marked
  rw [← String.toList_inj, items, String.toList_append, String.toList_ofList,
    List.append_eq_of_isSuffixOf?_eq_some found]

theorem segments_injective {left right : String} (same : segments left = segments right) :
    left = right := by
  have pieces : left.toList.splitOn '.' = right.toList.splitOn '.' := by
    have unwrapped := congrArg (List.map String.toList) same
    simpa [segments, Function.comp_def] using unwrapped
  have texts := congrArg (List.intercalate ['.']) pieces
  rw [List.intercalate_splitOn, List.intercalate_splitOn] at texts
  exact String.toList_inj.mp texts

theorem undotted_of_mem_segments {path segment : String} (isSegment : segment ∈ segments path) :
    '.' ∉ segment.toList := by
  obtain ⟨piece, isPiece, rfl⟩ := List.mem_map.mp isSegment
  rw [String.toList_ofList]
  exact Text.not_mem_of_mem_splitOn isPiece

theorem segments_of_undotted {segment : String} (undotted : '.' ∉ segment.toList) :
    segments segment = [segment] := by
  rw [segments, List.splitOn_eq_singleton undotted, List.map_singleton, String.ofList_toList]

theorem segments_dotted (parent : String) {segment : String} (undotted : '.' ∉ segment.toList) :
    segments (parent ++ "." ++ segment) = segments parent ++ [segment] := by
  have text : (parent ++ "." ++ segment).toList = parent.toList ++ '.' :: segment.toList := by
    simp [String.toList_append]
  rw [segments, text, List.splitOn_append_cons_self, List.splitOn_eq_singleton undotted, List.map_append,
    List.map_singleton, String.ofList_toList]
  rfl

def route (path : String) : List String := if path == "" then [] else segments path

theorem route_of_ne {path : String} (field : path ≠ "") : route path = segments path := by
  simp [route, field]

theorem route_join (parent : String) {segment : String} (nonempty : segment ≠ "")
    (undotted : '.' ∉ segment.toList) : route (join parent segment) = route parent ++ [segment] := by
  by_cases root : parent = ""
  · subst root
    have joined : join "" segment = segment := rfl
    rw [joined, route_of_ne nonempty, segments_of_undotted undotted]
    rfl
  · have joined : join parent segment = parent ++ "." ++ segment := by simp [join, root]
    have field : parent ++ "." ++ segment ≠ "" := by simp [root]
    rw [joined, route_of_ne field, route_of_ne root, segments_dotted parent undotted]

theorem join_ne_empty (parent : String) {segment : String} (nonempty : segment ≠ "") :
    join parent segment ≠ "" := by
  unfold join
  split
  · exact nonempty
  · simp

theorem items_join (parent key : String) : items (join parent key) = join parent (items key) := by
  unfold items join
  split
  · rfl
  · rw [String.append_assoc]

theorem resolve_singleton (segment : String) (value : Json) :
    resolve [segment] value = if value.isFalsy then [] else [last segment value] := by
  simp [resolve]

/-- What the rest of a path starts from: a member, or every item of one that is an array. -/
def through (segment : String) (value : Json) : List Json :=
  match arrayKey? segment with
  | some key =>
    match value.get? key with
    | some (.array items) => items
    | _ => []
  | none => (value.get? segment).toList

theorem resolve_cons (segment : String) {rest : List String} (deeper : rest ≠ []) (value : Json) :
    resolve (segment :: rest) value =
      if value.isFalsy then [] else (through segment value).flatMap (resolve rest) := by
  unfold through
  rw [resolve, List.isEmpty_eq_false_iff.mpr deeper]
  simp only [Bool.false_eq_true, if_false]
  congr 1
  cases arrayKey? segment with
  | some key =>
    simp only
    cases value.get? key with
    | none => rfl
    | some next => cases next <;> rfl
  | none => cases value.get? segment <;> simp

theorem items_ne_wholeBody (key : String) : items key ≠ wholeBody := by
  intro same
  have marked := arrayKey?_items key
  rw [same] at marked
  have unmarked : arrayKey? wholeBody = none := by decide
  rw [unmarked] at marked
  contradiction

end BodyPath
end WireContract

import WireContract.Proofs.NumberTexts
import WireContract.Proofs.Spelling

namespace WireContract
namespace Debug

mutual

theorem whole_json (value : Json) : Whole (json value) := by
  match value with
  | .null => exact whole_of_unmarked rfl
  | .bool b =>
    have name : Whole "Bool" := whole_of_unmarked rfl
    exact whole_call rfl name (whole_bool b)
  | .number n =>
    have name : Whole "Number" := whole_of_unmarked rfl
    exact whole_call rfl name (whole_number n)
  | .string s =>
    have name : Whole "String" := whole_of_unmarked rfl
    exact whole_call rfl name (whole_quoted s)
  | .array items =>
    have name : Whole "Array " := whole_of_unmarked rfl
    exact name.append (whole_list (whole_jsonItems items))
  | .object members =>
    have name : Whole "Object " := whole_of_unmarked rfl
    exact name.append (whole_map (whole_jsonMembers members))

theorem whole_jsonItems (items : List Json) : ∀ text ∈ jsonItems items, Whole text := by
  match items with
  | [] => exact nofun
  | item :: rest => exact List.forall_mem_cons.mpr ⟨whole_json item, whole_jsonItems rest⟩

theorem whole_jsonMembers (members : List (String × Json)) :
    ∀ pair ∈ jsonMembers members, Whole pair.1 ∧ Whole pair.2 := by
  match members with
  | [] => exact nofun
  | (key, value) :: rest =>
    exact List.forall_mem_cons.mpr ⟨⟨whole_quoted key, whole_json value⟩, whole_jsonMembers rest⟩

end

theorem json_ne_empty (value : Json) : json value ≠ "" := by
  intro empty
  have length := congrArg String.length empty
  cases value <;> simp [json] at length

theorem jsonItems_eq (items : List Json) : jsonItems items = items.map json := by
  induction items with
  | nil => rfl
  | cons item rest ih => rw [jsonItems, ih, List.map_cons]

theorem list_inj {texts others : List String} (isTexts : ∀ text ∈ texts, Whole text ∧ text ≠ "")
    (isOthers : ∀ text ∈ others, Whole text ∧ text ≠ "") (same : list texts = list others) :
    texts = others := by
  have appended : (list texts).toList ++ [] = (list others).toList ++ [] := by rw [same]
  exact (list_append_inj isTexts isOthers appended).1

theorem map_inj {pairs others : List (String × String)}
    (isPairs : ∀ pair ∈ pairs, Whole pair.1 ∧ Whole pair.2)
    (isOthers : ∀ pair ∈ others, Whole pair.1 ∧ Whole pair.2) (same : map pairs = map others) :
    pairs.map entry = others.map entry := by
  have appended : (map pairs).toList ++ [] = (map others).toList ++ [] := by rw [same]
  exact (map_append_inj isPairs isOthers appended).1

theorem call_inj {before inner otherInner : String}
    (same : before ++ inner ++ ")" = before ++ otherInner ++ ")") : inner = otherInner :=
  (String.append_right_inj before).mp ((String.append_left_inj ")").mp same)

theorem none_ne_some {α : Type} (text : α → String) (value : α) :
    optional text none ≠ optional text (some value) := by
  intro same
  have chars := congrArg String.toList same
  simp [optional] at chars

theorem record_inj {name : String} {fields others : List (String × String)}
    (keys : fields.map Prod.fst = others.map Prod.fst) (isFields : ∀ field ∈ fields, Whole field.2)
    (isOthers : ∀ field ∈ others, Whole field.2) (same : record name fields = record name others) :
    fields = others := by
  have appended : (record name fields).toList ++ [] = (record name others).toList ++ [] := by rw [same]
  exact (record_append_inj keys isFields isOthers appended).1

theorem entry_quoted_inj {key otherKey text otherText : String}
    (same : entry (Text.quoted key, text) = entry (Text.quoted otherKey, otherText)) :
    key = otherKey ∧ text = otherText := by
  have chars : (Text.quoted key).toList ++ (": " ++ text).toList =
      (Text.quoted otherKey).toList ++ (": " ++ otherText).toList := by
    rw [← String.toList_append, ← String.toList_append, ← String.append_assoc, ← String.append_assoc]
    exact congrArg String.toList same
  obtain ⟨rfl, later⟩ := Text.quoted_append_inj chars
  exact ⟨rfl, (String.append_right_inj ": ").mp (String.toList_inj.mp later)⟩

def kind : Json → Nat
  | .null => 0
  | .bool _ => 1
  | .number _ => 2
  | .string _ => 3
  | .array _ => 4
  | .object _ => 5

theorem kind_of_json {value other : Json} (same : json value = json other) : kind value = kind other := by
  have chars := congrArg String.toList same
  cases value <;> cases other <;> first
    | rfl
    | simp [json] at chars

theorem bool_injective {b c : Bool} (same : bool b = bool c) : b = c := by
  revert b c
  decide

mutual

theorem spelling_of_json (value other : Json) (same : json value = json other) :
    value.spelling = other.spelling := by
  match value, other, kind_of_json same with
  | .null, .null, _ => rfl
  | .bool b, .bool c, _ =>
    rw [bool_injective (call_inj same)]
  | .number n, .number m, _ =>
    have texts : n.text = m.text := call_inj same
    exact funext fun level => texts
  | .string s, .string t, _ =>
    rw [Text.quoted_injective (call_inj same)]
  | .array items, .array others, _ =>
    have texts : jsonItems items = jsonItems others := by
      refine list_inj (fun text member => ⟨whole_jsonItems items text member, ?_⟩)
        (fun text member => ⟨whole_jsonItems others text member, ?_⟩)
        ((String.append_right_inj "Array ").mp same)
      all_goals
        rw [jsonItems_eq] at member
        obtain ⟨item, _, rfl⟩ := List.mem_map.mp member
        exact json_ne_empty item
    exact Json.spelling_array (spellings_of_jsonItems items others texts)
  | .object members, .object others, _ =>
    have entries : (jsonMembers members).map entry = (jsonMembers others).map entry :=
      map_inj (whole_jsonMembers members) (whole_jsonMembers others)
        ((String.append_right_inj "Object ").mp same)
    exact Json.spelling_object (spellings_of_jsonMembers members others entries)

theorem spellings_of_jsonItems (items others : List Json) (same : jsonItems items = jsonItems others) :
    items.map Json.spelling = others.map Json.spelling := by
  match items, others with
  | [], [] => rfl
  | [], _ :: _ => cases same
  | _ :: _, [] => cases same
  | item :: rest, other :: otherRest =>
    obtain ⟨first, later⟩ := List.cons.inj same
    rw [List.map_cons, List.map_cons, spelling_of_json item other first,
      spellings_of_jsonItems rest otherRest later]

theorem spellings_of_jsonMembers (members others : List (String × Json))
    (same : (jsonMembers members).map entry = (jsonMembers others).map entry) :
    (members.map fun member => (member.1, member.2.spelling)) =
      others.map fun member => (member.1, member.2.spelling) := by
  match members, others with
  | [], [] => rfl
  | [], _ :: _ => cases same
  | _ :: _, [] => cases same
  | (key, value) :: rest, (otherKey, other) :: otherRest =>
    obtain ⟨first, later⟩ := List.cons.inj same
    obtain ⟨rfl, texts⟩ := entry_quoted_inj first
    rw [List.map_cons, List.map_cons, spelling_of_json value other texts,
      spellings_of_jsonMembers rest otherRest later]

end

end Debug
end WireContract

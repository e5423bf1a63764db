import WireContract.Text.Debug

/-!
Where debug texts end. A reader that minds quotes and brackets finds the end of every value, so a list or a
record of values is read part by part. Main statements: `list_append_inj` and `record_append_inj`.
-/

namespace WireContract
namespace Debug

def opening (c : Char) : Bool := c == '(' || c == '[' || c == '\x7b'

def closing (c : Char) : Bool := c == ')' || c == ']' || c == '\x7d'

def unmarked (c : Char) : Bool := !(c == '"' || c == ',' || opening c || closing c)

/-- Where a reader of a debug text stands. -/
inductive Place
  | plain
  | quoted
  | escaped

/-- What is left of a text behind a value, `depth` brackets being open: it starts with the comma or the
closing bracket that is not of the value. -/
def behind : Nat → Place → List Char → List Char
  | _, _, [] => []
  | depth, .plain, c :: rest =>
    if c == '"' then behind depth .quoted rest
    else if opening c then behind (depth + 1) .plain rest
    else if closing c then if depth == 0 then c :: rest else behind (depth - 1) .plain rest
    else if c == ',' && depth == 0 then c :: rest
    else behind depth .plain rest
  | depth, .quoted, c :: rest =>
    if c == '"' then behind depth .plain rest
    else if c == '\\' then behind depth .escaped rest
    else behind depth .quoted rest
  | depth, .escaped, _ :: rest => behind depth .quoted rest

theorem behind_plain (depth : Nat) (c : Char) (rest : List Char) :
    behind depth .plain (c :: rest) =
      if c == '"' then behind depth .quoted rest
      else if opening c then behind (depth + 1) .plain rest
      else if closing c then if depth == 0 then c :: rest else behind (depth - 1) .plain rest
      else if c == ',' && depth == 0 then c :: rest
      else behind depth .plain rest := rfl

structure Closes (c : Char) : Prop where
  closing : closing c = true
  notOpening : opening c = false
  noQuote : c ≠ '"'
  noComma : c ≠ ','

theorem closes_round : Closes ')' := by constructor <;> decide

theorem closes_square : Closes ']' := by constructor <;> decide

theorem closes_curly : Closes '\x7d' := by constructor <;> decide

/-- A text that is read over as one value, or as a part of one. -/
def Whole (text : String) : Prop :=
  ∀ depth rest, behind depth .plain (text.toList ++ rest) = behind depth .plain rest

def Inside (text : String) : Prop :=
  ∀ depth rest, behind (depth + 1) .plain (text.toList ++ rest) = behind (depth + 1) .plain rest

theorem Whole.inside {text : String} (whole : Whole text) : Inside text := fun depth => whole (depth + 1)

theorem Whole.append {first second : String} (isFirst : Whole first) (isSecond : Whole second) :
    Whole (first ++ second) := by
  intro depth rest
  rw [String.toList_append, List.append_assoc, isFirst, isSecond]

theorem Inside.append {first second : String} (isFirst : Inside first) (isSecond : Inside second) :
    Inside (first ++ second) := by
  intro depth rest
  rw [String.toList_append, List.append_assoc, isFirst, isSecond]

theorem whole_of_unmarked {text : String} (plain : text.toList.all unmarked = true) : Whole text := by
  intro depth rest
  generalize text.toList = chars at plain
  induction chars with
  | nil => rfl
  | cons c chars ih =>
    rw [List.all_cons, Bool.and_eq_true] at plain
    have notMarked := plain.1
    simp only [unmarked, Bool.not_eq_true', Bool.or_eq_false_iff] at notMarked
    obtain ⟨⟨⟨noQuote, noComma⟩, notOpening⟩, notClosing⟩ := notMarked
    rw [List.cons_append, behind_plain, noQuote, notOpening, notClosing, noComma]
    exact ih plain.2

theorem inside_comma : Inside ", " := fun _ _ => rfl

theorem inside_intercalate {texts : List String} (inside : ∀ text ∈ texts, Inside text) :
    Inside (", ".intercalate texts) := by
  induction texts with
  | nil => exact fun _ _ => rfl
  | cons first rest ih =>
    obtain ⟨isInside, others⟩ := List.forall_mem_cons.mp inside
    cases rest with
    | nil => rwa [String.intercalate_singleton]
    | cons second rest =>
      rw [String.intercalate_cons_cons]
      exact (isInside.append inside_comma).append (ih others)

theorem Closes.behind_succ {c : Char} (closes : Closes c) (depth : Nat) (rest : List Char) :
    behind (depth + 1) .plain (c :: rest) = behind depth .plain rest := by
  rw [behind_plain, beq_false_of_ne closes.noQuote, closes.notOpening, closes.closing]
  rfl

theorem Inside.bracketed {before inner after : String} {opener closer : Char} (inside : Inside inner)
    (isBefore : before.toList = [opener]) (opens : opening opener = true ∧ opener ≠ '"')
    (isAfter : after.toList = [closer]) (closes : Closes closer) : Whole (before ++ inner ++ after) := by
  intro depth rest
  have opened (rest : List Char) :
      behind depth .plain (opener :: rest) = behind (depth + 1) .plain rest := by
    rw [behind_plain, beq_false_of_ne opens.2, opens.1]
    rfl
  rw [String.toList_append, String.toList_append, isBefore, isAfter, List.append_assoc, List.append_assoc,
    List.singleton_append, opened, inside, List.singleton_append, closes.behind_succ]

theorem whole_list {texts : List String} (whole : ∀ text ∈ texts, Whole text) : Whole (list texts) :=
  (inside_intercalate fun text member => (whole text member).inside).bracketed rfl ⟨rfl, by decide⟩ rfl
    closes_square

theorem whole_call {before name inner : String} (isBefore : before = name ++ "(") (isName : Whole name)
    (whole : Whole inner) : Whole (before ++ inner ++ ")") := by
  have bracketed : Whole ("(" ++ inner ++ ")") :=
    whole.inside.bracketed rfl ⟨rfl, by decide⟩ rfl closes_round
  have parted : before ++ inner ++ ")" = name ++ ("(" ++ inner ++ ")") := by
    simp only [isBefore, String.append_assoc]
  rw [parted]
  exact isName.append bracketed

theorem whole_optional {α : Type} {text : α → String} (whole : ∀ value, Whole (text value))
    (value : Option α) : Whole (optional text value) := by
  cases value with
  | none =>
    have none : Whole "None" := whole_of_unmarked rfl
    exact none
  | some value =>
    have name : Whole "Some" := whole_of_unmarked rfl
    exact whole_call rfl name (whole value)

theorem whole_bool (b : Bool) : Whole (bool b) := by cases b <;> exact whole_of_unmarked rfl

theorem whole_location (place : Location) : Whole (location place) := by
  cases place <;> exact whole_of_unmarked rfl

def entry (pair : String × String) : String := pair.1 ++ ": " ++ pair.2

theorem record_eq (name : String) (fields : List (String × String)) :
    record name fields = name ++ " \x7b " ++ ", ".intercalate (fields.map entry) ++ " \x7d" := rfl

theorem whole_entry {pair : String × String} (key : Whole pair.1) (value : Whole pair.2) :
    Whole (entry pair) := (key.append (whole_of_unmarked rfl)).append value

theorem whole_map {pairs : List (String × String)} (whole : ∀ pair ∈ pairs, Whole pair.1 ∧ Whole pair.2) :
    Whole (map pairs) := by
  refine Inside.bracketed (inside_intercalate ?_) rfl ⟨rfl, by decide⟩ rfl closes_curly
  intro text isEntry
  obtain ⟨pair, member, rfl⟩ := List.mem_map.mp isEntry
  exact (whole_entry (whole pair member).1 (whole pair member).2).inside

theorem whole_record {name : String} {fields : List (String × String)} (isName : Whole name)
    (keys : (fields.map Prod.fst).all (fun key => key.toList.all unmarked) = true)
    (values : ∀ field ∈ fields, Whole field.2) : Whole (record name fields) := by
  have inside : Inside (" " ++ ", ".intercalate (fields.map entry) ++ " ") := by
    refine Inside.append (Inside.append (whole_of_unmarked rfl).inside (inside_intercalate ?_))
      (whole_of_unmarked rfl).inside
    intro text isEntry
    obtain ⟨field, member, rfl⟩ := List.mem_map.mp isEntry
    have key := List.all_eq_true.mp keys _ (List.mem_map_of_mem member)
    exact (whole_entry (whole_of_unmarked key) (values field member)).inside
  have parted : record name fields =
      name ++ " " ++ ("\x7b" ++ (" " ++ ", ".intercalate (fields.map entry) ++ " ") ++ "\x7d") := by
    apply String.toList_inj.mp
    rw [record_eq]
    simp
  rw [parted]
  exact (isName.append (whole_of_unmarked rfl)).append
    (inside.bracketed rfl ⟨rfl, by decide⟩ rfl closes_curly)

def Ends (rest : List Char) : Prop := behind 0 .plain rest = rest

theorem ends_comma (rest : List Char) : Ends (',' :: rest) := rfl

theorem Closes.ends {c : Char} (closes : Closes c) (rest : List Char) : Ends (c :: rest) := by
  rw [Ends, behind_plain, beq_false_of_ne closes.noQuote, closes.notOpening, closes.closing]
  rfl

/-- Two values of which each stands before an end are parted from it in one way. -/
theorem Whole.append_inj {first second : String} {rest other : List Char} (isFirst : Whole first)
    (isSecond : Whole second) (ends : Ends rest) (otherEnds : Ends other)
    (same : first.toList ++ rest = second.toList ++ other) : first = second ∧ rest = other := by
  have restSame : rest = other := by
    rw [← ends, ← otherEnds, ← isFirst 0 rest, ← isSecond 0 other, same]
  subst restSame
  exact ⟨String.toList_inj.mp (List.append_cancel_right same), rfl⟩

theorem Whole.ne_closing {text : String} (whole : Whole text) (isThere : text ≠ "") {c : Char}
    (closes : Closes c) {rest other : List Char} : c :: rest ≠ text.toList ++ other := by
  cases found : text.toList with
  | nil => exact absurd (String.toList_inj.mp found) isThere
  | cons first chars =>
    intro same
    obtain ⟨rfl, _⟩ := List.cons.inj same
    have read := whole 0 []
    rw [found, List.cons_append, closes.ends] at read
    cases read

def following (c : Char) : List String → List Char → List Char
  | [], rest => c :: rest
  | text :: texts, rest => ',' :: ' ' :: (text.toList ++ following c texts rest)

theorem intercalate_append (c : Char) (first : String) (texts : List String) (rest : List Char) :
    (", ".intercalate (first :: texts)).toList ++ c :: rest = first.toList ++ following c texts rest := by
  induction texts generalizing first with
  | nil => rw [String.intercalate_singleton, following]
  | cons second texts ih =>
    rw [String.intercalate_cons_cons, String.toList_append, String.toList_append, List.append_assoc, ih,
      List.append_assoc]
    rfl

theorem ends_following {c : Char} (closes : Closes c) (texts : List String) (rest : List Char) :
    Ends (following c texts rest) := by
  cases texts with
  | nil => exact closes.ends rest
  | cons _ _ => exact ends_comma _

theorem following_inj {c : Char} (closes : Closes c) {texts others : List String} {rest other : List Char}
    (isTexts : ∀ text ∈ texts, Whole text) (isOthers : ∀ text ∈ others, Whole text)
    (same : following c texts rest = following c others other) : texts = others ∧ rest = other := by
  induction texts generalizing others with
  | nil =>
    cases others with
    | nil => exact ⟨rfl, (List.cons.inj same).2⟩
    | cons _ _ => exact absurd (List.cons.inj same).1 closes.noComma
  | cons first texts ih =>
    cases others with
    | nil => exact absurd (List.cons.inj same).1.symm closes.noComma
    | cons second others =>
      obtain ⟨isFirst, laterTexts⟩ := List.forall_mem_cons.mp isTexts
      obtain ⟨isSecond, laterOthers⟩ := List.forall_mem_cons.mp isOthers
      obtain ⟨rfl, later⟩ := isFirst.append_inj isSecond (ends_following closes texts rest)
        (ends_following closes others other) (List.cons.inj (List.cons.inj same).2).2
      obtain ⟨rfl, restSame⟩ := ih laterTexts laterOthers later
      exact ⟨rfl, restSame⟩

theorem intercalate_inj {c : Char} (closes : Closes c) {texts others : List String} {rest other : List Char}
    (isTexts : ∀ text ∈ texts, Whole text ∧ text ≠ "") (isOthers : ∀ text ∈ others, Whole text ∧ text ≠ "")
    (same : (", ".intercalate texts).toList ++ c :: rest = (", ".intercalate others).toList ++ c :: other) :
    texts = others ∧ rest = other := by
  cases texts with
  | nil =>
    cases others with
    | nil => exact ⟨rfl, (List.cons.inj same).2⟩
    | cons second others =>
      obtain ⟨isSecond, isThere⟩ := isOthers _ (.head _)
      rw [intercalate_append] at same
      exact absurd same (isSecond.ne_closing isThere closes)
  | cons first texts =>
    obtain ⟨isFirst, isThere⟩ := isTexts _ (.head _)
    rw [intercalate_append] at same
    cases others with
    | nil => exact absurd same.symm (isFirst.ne_closing isThere closes)
    | cons second others =>
      obtain ⟨isSecond, _⟩ := isOthers _ (.head _)
      rw [intercalate_append] at same
      obtain ⟨rfl, later⟩ := isFirst.append_inj isSecond (ends_following closes texts rest)
        (ends_following closes others other) same
      obtain ⟨rfl, restSame⟩ := following_inj closes (fun text member => (isTexts text (.tail _ member)).1)
        (fun text member => (isOthers text (.tail _ member)).1) later
      exact ⟨rfl, restSame⟩

theorem list_append_inj {texts others : List String} {rest other : List Char}
    (isTexts : ∀ text ∈ texts, Whole text ∧ text ≠ "") (isOthers : ∀ text ∈ others, Whole text ∧ text ≠ "")
    (same : (list texts).toList ++ rest = (list others).toList ++ other) : texts = others ∧ rest = other := by
  have parted (texts : List String) (rest : List Char) :
      (list texts).toList ++ rest = '[' :: ((", ".intercalate texts).toList ++ ']' :: rest) := by
    simp [list]
  rw [parted, parted] at same
  exact intercalate_inj closes_square isTexts isOthers (List.cons.inj same).2

theorem map_append_inj {pairs others : List (String × String)} {rest other : List Char}
    (isPairs : ∀ pair ∈ pairs, Whole pair.1 ∧ Whole pair.2)
    (isOthers : ∀ pair ∈ others, Whole pair.1 ∧ Whole pair.2)
    (same : (map pairs).toList ++ rest = (map others).toList ++ other) :
    pairs.map entry = others.map entry ∧ rest = other := by
  have parted (pairs : List (String × String)) (rest : List Char) :
      (map pairs).toList ++ rest =
        '\x7b' :: ((", ".intercalate (pairs.map entry)).toList ++ '\x7d' :: rest) := by
    change ("\x7b" ++ ", ".intercalate (pairs.map entry) ++ "\x7d").toList ++ rest = _
    simp
  have entries {pairs : List (String × String)} (isPairs : ∀ pair ∈ pairs, Whole pair.1 ∧ Whole pair.2) :
      ∀ text ∈ pairs.map entry, Whole text ∧ text ≠ "" := by
    intro text isEntry
    obtain ⟨pair, member, rfl⟩ := List.mem_map.mp isEntry
    refine ⟨whole_entry (isPairs pair member).1 (isPairs pair member).2, fun empty => ?_⟩
    have length := congrArg String.length empty
    simp [entry] at length
  rw [parted, parted] at same
  exact intercalate_inj closes_curly (entries isPairs) (entries isOthers) (List.cons.inj same).2

theorem Whole.last_inj {value otherValue : String} {rest other : List Char} (isValue : Whole value)
    (isOther : Whole otherValue)
    (same : value.toList ++ ' ' :: '\x7d' :: rest = otherValue.toList ++ ' ' :: '\x7d' :: other) :
    value = otherValue ∧ rest = other := by
  -- the blank is read over with the value
  have spaced {value : String} (whole : Whole value) : Whole (value ++ " ") :=
    whole.append (whole_of_unmarked rfl)
  have bySpaced (value : String) (rest : List Char) :
      value.toList ++ ' ' :: '\x7d' :: rest = (value ++ " ").toList ++ '\x7d' :: rest := by simp
  rw [bySpaced, bySpaced] at same
  obtain ⟨valueSame, later⟩ :=
    (spaced isValue).append_inj (spaced isOther) (closes_curly.ends rest) (closes_curly.ends other) same
  exact ⟨String.append_left_inj " " |>.mp valueSame, (List.cons.inj later).2⟩

theorem entry_append (field : String × String) (rest : List Char) :
    (entry field).toList ++ rest = (field.1 ++ ": ").toList ++ (field.2.toList ++ rest) := by
  rw [entry, String.toList_append, List.append_assoc]

theorem fields_inj {fields others : List (String × String)} {rest other : List Char}
    (keys : fields.map Prod.fst = others.map Prod.fst) (isFields : ∀ field ∈ fields, Whole field.2)
    (isOthers : ∀ field ∈ others, Whole field.2)
    (same : (", ".intercalate (fields.map entry)).toList ++ ' ' :: '\x7d' :: rest =
      (", ".intercalate (others.map entry)).toList ++ ' ' :: '\x7d' :: other) :
    fields = others ∧ rest = other := by
  induction fields generalizing others with
  | nil =>
    obtain rfl := List.map_eq_nil_iff.mp keys.symm
    exact ⟨rfl, by simpa using same⟩
  | cons field fields ih =>
    cases others with
    | nil => cases keys
    | cons another others =>
      obtain ⟨key, value⟩ := field
      obtain ⟨otherKey, otherValue⟩ := another
      obtain ⟨rfl, laterKeys⟩ := List.cons.inj keys
      obtain ⟨isField, laterFields⟩ := List.forall_mem_cons.mp isFields
      obtain ⟨isOther, laterOthers⟩ := List.forall_mem_cons.mp isOthers
      cases fields with
      | nil =>
        obtain rfl := List.map_eq_nil_iff.mp laterKeys.symm
        rw [List.map_singleton, List.map_singleton, String.intercalate_singleton,
          String.intercalate_singleton, entry_append, entry_append] at same
        obtain ⟨rfl, restSame⟩ := isField.last_inj isOther (List.append_cancel_left same)
        exact ⟨rfl, restSame⟩
      | cons second fields =>
        cases others with
        | nil => cases laterKeys
        | cons otherSecond others =>
          have parted (first second : String × String) (fields : List (String × String))
              (rest : List Char) :
              (", ".intercalate ((first :: second :: fields).map entry)).toList ++ rest =
                (first.1 ++ ": ").toList ++ (first.2.toList ++ ',' :: ' ' ::
                  ((", ".intercalate ((second :: fields).map entry)).toList ++ rest)) := by
            rw [← entry_append, List.map_cons, List.map_cons, String.intercalate_cons_cons]
            simp
          rw [parted, parted] at same
          obtain ⟨rfl, later⟩ := isField.append_inj isOther (ends_comma _) (ends_comma _)
            (List.append_cancel_left same)
          obtain ⟨fieldsSame, restSame⟩ := ih laterKeys laterFields laterOthers
            (List.cons.inj (List.cons.inj later).2).2
          exact ⟨congrArg _ fieldsSame, restSame⟩

theorem record_append_inj {name : String} {fields others : List (String × String)} {rest other : List Char}
    (keys : fields.map Prod.fst = others.map Prod.fst) (isFields : ∀ field ∈ fields, Whole field.2)
    (isOthers : ∀ field ∈ others, Whole field.2)
    (same : (record name fields).toList ++ rest = (record name others).toList ++ other) :
    fields = others ∧ rest = other := by
  have parted (fields : List (String × String)) (rest : List Char) :
      (record name fields).toList ++ rest =
        (name ++ " \x7b ").toList ++
          ((", ".intercalate (fields.map entry)).toList ++ ' ' :: '\x7d' :: rest) := by
    simp [record_eq]
  rw [parted, parted] at same
  exact fields_inj keys isFields isOthers (List.append_cancel_left same)

end Debug
end WireContract

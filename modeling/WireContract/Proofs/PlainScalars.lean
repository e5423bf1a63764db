import Mathlib.Data.List.TakeWhile
import WireContract.Yaml.Lexer

namespace WireContract
namespace Yaml

/-- Whether a text can go on with a plain scalar of one line: no colon ends it, no comment starts within it,
and no blank is at its end. -/
def continuesPlain : List Char → Bool
  | [] => true
  | c :: rest =>
    !isBreak c && !(c == ':' && startsBlank rest) &&
      !(isBlank c && (rest.isEmpty || rest.head? == some '#')) && continuesPlain rest

def isPlainLine (text : List Char) : Bool :=
  text.all isAllowed && Lexer.startsPlain false text &&
    !(['-', '?', ':'].any (text.head? == some ·) && startsBlank text.tail) && continuesPlain text

def IsWord (word rest : List Char) : Prop :=
  (∀ c ∈ word, isBlank c = false ∧ isBreak c = false) ∧
    ∀ front back, word = front ++ ':' :: back → startsBlank (back ++ rest) = false

theorem IsWord.tail {c : Char} {word rest : List Char} (isWord : IsWord (c :: word) rest) : IsWord word rest :=
  ⟨fun d member => isWord.1 d (.tail _ member),
    fun front back parts => isWord.2 (c :: front) back (congrArg (c :: ·) parts)⟩

theorem startsBlank_cons {c : Char} (isMark : isBlank c = true ∨ isBreak c = true) (rest : List Char) :
    startsBlank (c :: rest) = true := by
  rcases isMark with isBlank | isBreak
  · simp [startsBlank, isBlank]
  · simp [startsBlank, isBreak]

theorem badColon_outside (text : List Char) : badColon false text = false := by
  unfold badColon
  split <;> rfl

theorem endsPlain_cons {c : Char} {rest : List Char} (goesOn : c = ':' → startsBlank rest = false) :
    endsPlain false (c :: rest) = false := by
  unfold endsPlain
  split
  · next isColon =>
    obtain ⟨rfl, rfl⟩ := List.cons.inj isColon
    exact goesOn rfl
  · rfl
  · next isEmpty => cases isEmpty

theorem plainWord_word {word rest : List Char} (isWord : IsWord word rest)
    (stops : startsBlank rest = true ∨ endsPlain false rest = true) {fuel : Nat} (enough : word.length < fuel)
    (done : List Char) (index line column : Nat) :
    plainWord false fuel done ⟨word ++ rest, index, line, column⟩ =
      some (word.reverse ++ done, ⟨rest, index + word.length, line, column + word.length⟩) := by
  induction word generalizing fuel done index column with
  | nil =>
    obtain ⟨fuel, rfl⟩ := Nat.exists_eq_add_of_lt enough
    rw [plainWord]
    cases rest with
    | nil => rfl
    | cons c rest =>
      simp only [List.nil_append]
      by_cases isMark : (isBlank c || isBreak c) = true
      · exact if_pos isMark
      · rw [if_neg isMark, badColon_outside, if_neg Bool.false_ne_true,
          if_pos (stops.resolve_left isMark)]
        rfl
  | cons c word ih =>
    obtain ⟨fuel, rfl⟩ := Nat.exists_eq_add_of_lt (Nat.zero_lt_of_lt enough)
    obtain ⟨notBlank, notBreak⟩ := isWord.1 c (.head _)
    have goesOn : endsPlain false (c :: (word ++ rest)) = false := by
      refine endsPlain_cons ?_
      rintro rfl
      exact isWord.2 [] word rfl
    rw [Nat.zero_add, plainWord]
    simp only [List.cons_append, notBlank, notBreak, badColon_outside, goesOn, Bool.or_false, Bool.false_eq_true,
      if_false]
    have next : (⟨c :: (word ++ rest), index, line, column⟩ : Cursor).next =
      ⟨word ++ rest, index + 1, line, column + 1⟩ := rfl
    rw [next, ih isWord.tail (by simpa using enough), List.reverse_cons, List.append_assoc, List.length_cons]
    simp only [List.singleton_append, Nat.add_assoc, Nat.add_comm 1]

theorem readGap_blanks {blanks : List Char} (areBlank : ∀ c ∈ blanks, isBlank c = true) (tabsFrom : Option Nat)
    (fuel : Nat) (before rest : List Char) (index line column : Nat) :
    readGap tabsFrom (blanks.length + fuel) ⟨before, [], [], false⟩ ⟨blanks ++ rest, index, line, column⟩ =
      readGap tabsFrom fuel ⟨before ++ blanks, [], [], false⟩
        ⟨rest, index + blanks.length, line, column + blanks.length⟩ := by
  induction blanks generalizing before index column with
  | nil => simp
  | cons d blanks ih =>
    have next : (⟨d :: (blanks ++ rest), index, line, column⟩ : Cursor).next =
      ⟨blanks ++ rest, index + 1, line, column + 1⟩ := rfl
    rw [List.length_cons, Nat.add_right_comm, readGap]
    simp only [List.cons_append, areBlank d (.head _), if_true, Bool.false_and, Bool.false_eq_true, if_false, next]
    rw [ih fun e member => areBlank e (.tail _ member)]
    simp only [List.append_assoc, List.singleton_append, Nat.add_assoc, Nat.add_comm 1]

def IsText (text : List Char) : Prop := ∀ c ∈ text.head?, isBlank c = false ∧ isBreak c = false

theorem readGap_text {text : List Char} (isText : IsText text) (tabsFrom : Option Nat) (fuel : Nat) (gap : Gap)
    (index line column : Nat) :
    readGap tabsFrom fuel gap ⟨text, index, line, column⟩ = some (gap, ⟨text, index, line, column⟩) := by
  cases fuel with
  | zero => rfl
  | succ fuel =>
    cases text with
    | nil => rfl
    | cons c text =>
      obtain ⟨notBlank, notBreak⟩ := isText c rfl
      simp [readGap, notBlank, notBreak]

theorem readGap_lines {text : List Char} (isText : IsText text) (tabsFrom : Option Nat) {count fuel : Nat}
    (enough : count ≤ fuel) (gap : Gap) (broken : gap.broken = true) (index line : Nat) :
    ∃ gap' index' line', gap'.broken = true ∧
      readGap tabsFrom fuel gap ⟨List.replicate count '\n' ++ text, index, line, 0⟩ =
        some (gap', ⟨text, index', line', 0⟩) := by
  induction count generalizing fuel gap index line with
  | zero => exact ⟨gap, index, line, broken, readGap_text isText tabsFrom fuel gap index line 0⟩
  | succ count ih =>
    obtain ⟨fuel, rfl⟩ := Nat.exists_eq_add_of_le' (Nat.le_trans (Nat.le_add_left 1 count) enough)
    obtain ⟨gap', index', line', broken', read⟩ := ih (Nat.le_of_succ_le_succ enough)
      ⟨[], gap.lead, gap.trail ++ ['\n'], true⟩ rfl (index + 1) (line + 1)
    refine ⟨gap', index', line', broken', ?_⟩
    rw [← read, readGap, List.replicate_succ, List.cons_append]
    simp only [broken, if_true]
    rfl

/-- What may stand behind a plain scalar of one line: blanks and a comment, or the end of the line and empty
lines. It is read over up to the comment or the next text. -/
inductive EndsLine : List Char → Bool → List Char → Prop
  | comment {blanks : List Char} (areBlank : ∀ c ∈ blanks, isBlank c = true) (isThere : blanks ≠ [])
      (rest : List Char) : EndsLine (blanks ++ '#' :: rest) false ('#' :: rest)
  | line {blanks : List Char} (areBlank : ∀ c ∈ blanks, isBlank c = true) (count : Nat) {text : List Char}
      (isText : IsText text) : EndsLine (blanks ++ '\n' :: (List.replicate count '\n' ++ text)) true text

theorem EndsLine.startsBlank {tail left : List Char} {broken : Bool} (ends : EndsLine tail broken left) :
    startsBlank tail = true := by
  cases ends with
  | @comment blanks areBlank isThere rest =>
    obtain ⟨c, blanks, rfl⟩ := List.exists_cons_of_ne_nil isThere
    exact startsBlank_cons (.inl (areBlank c (.head _))) _
  | @line blanks areBlank count text isText =>
    cases blanks with
    | nil => rfl
    | cons c blanks => exact startsBlank_cons (.inl (areBlank c (.head _))) _

theorem EndsLine.readGap {tail left : List Char} {broken : Bool} (ends : EndsLine tail broken left)
    (tabsFrom : Option Nat) (index line column : Nat) :
    ∃ gap index' line' column', gap.broken = broken ∧ (broken = true → column' = 0) ∧
      (broken = false → column ≤ column') ∧
      readGap tabsFrom (tail.length + 1) Gap.none ⟨tail, index, line, column⟩ =
        some (gap, ⟨left, index', line', column'⟩) := by
  cases ends with
  | @comment blanks areBlank isThere rest =>
    have isText : IsText ('#' :: rest) := by
      rintro _ ⟨⟩
      exact ⟨rfl, rfl⟩
    refine ⟨⟨blanks, [], [], false⟩, index + blanks.length, line, column + blanks.length, rfl, nofun,
      fun _ => Nat.le_add_right _ _, ?_⟩
    rw [List.length_append, Nat.add_assoc]
    exact (readGap_blanks areBlank tabsFrom _ [] _ index line column).trans
      (readGap_text isText tabsFrom _ _ _ line _)
  | @line blanks areBlank count text isText =>
    have enough : count ≤ count + left.length + 1 := by omega
    obtain ⟨gap, index', line', isBroken, read⟩ := readGap_lines isText tabsFrom enough ⟨[], ['\n'], [], true⟩ rfl
      (index + blanks.length + 1) (line + 1)
    refine ⟨gap, index', line', 0, isBroken, fun _ => rfl, nofun, ?_⟩
    have isLength : (blanks ++ '\n' :: (List.replicate count '\n' ++ left)).length + 1 =
        blanks.length + (count + left.length + 1 + 1) := by
      simp only [List.length_append, List.length_cons, List.length_replicate]
      omega
    rw [isLength]
    exact (readGap_blanks areBlank tabsFrom _ [] _ index line column).trans read

theorem startsBlank_append {front : List Char} (goesOn : startsBlank front = false) (back : List Char) :
    startsBlank (front ++ back) = false := by
  cases front with
  | nil => cases goesOn
  | cons c front => exact goesOn

theorem continuesPlain_of_cons {c : Char} {rest : List Char} (plain : continuesPlain (c :: rest) = true) :
    continuesPlain rest = true := (Bool.and_eq_true_iff.mp plain).2

theorem continuesPlain_of_append {front back : List Char} (plain : continuesPlain (front ++ back) = true) :
    continuesPlain back = true := by
  induction front with
  | nil => exact plain
  | cons c front ih => exact ih (continuesPlain_of_cons plain)

theorem continuesPlain_cons {c : Char} {rest : List Char} (plain : continuesPlain (c :: rest) = true) :
    isBreak c = false ∧ (c = ':' → startsBlank rest = false) ∧
      (isBlank c = true → rest ≠ [] ∧ rest.head? ≠ some '#') := by
  simp only [continuesPlain, Bool.and_eq_true, Bool.not_eq_true', Bool.and_eq_false_iff, Bool.or_eq_false_iff,
    beq_eq_false_iff_ne, List.isEmpty_eq_false_iff] at plain
  obtain ⟨⟨⟨notBreak, colon⟩, blank⟩, _⟩ := plain
  refine ⟨notBreak, fun isColon => colon.resolve_left (fun other => other isColon), fun isBlank => ?_⟩
  exact blank.resolve_left (by simp [isBlank])

theorem isBreak_of_continuesPlain {text : List Char} (plain : continuesPlain text = true) :
    ∀ c ∈ text, isBreak c = false := by
  intro c member
  obtain ⟨front, back, rfl⟩ := List.append_of_mem member
  exact (continuesPlain_cons (continuesPlain_of_append plain)).1

theorem isWord_of_continuesPlain {word rest : List Char} (plain : continuesPlain (word ++ rest) = true)
    (noBlanks : ∀ c ∈ word, isBlank c = false) (tail : List Char) : IsWord word (rest ++ tail) := by
  refine ⟨fun c member =>
    ⟨noBlanks c member, isBreak_of_continuesPlain plain c (List.mem_append_left _ member)⟩, ?_⟩
  rintro front back rfl
  rw [List.append_assoc, List.cons_append] at plain
  rw [← List.append_assoc]
  exact startsBlank_append ((continuesPlain_cons (continuesPlain_of_append plain)).2.1 rfl) tail

theorem EndsLine.ne_nil {tail left : List Char} {broken : Bool} (ends : EndsLine tail broken left) : tail ≠ [] := by
  cases ends <;> simp

def StartsWord (text : List Char) : Prop := ∃ c rest, text = c :: rest ∧ isBlank c = false ∧ c ≠ '#'

/-- The reader of a plain scalar takes a word and what stands between it and the next one. -/
theorem plainFrom_word {word rest : List Char} (isWord : IsWord word rest) (starts : StartsWord word)
    (stops : startsBlank rest = true) (isThere : rest ≠ []) {column : Nat} (inside : 0 < column)
    (indent fuel : Nat) (done : List Char) (gap : Gap) (index line : Nat) :
    plainFrom false indent (fuel + 1) done gap ⟨word ++ rest, index, line, column⟩ =
      match readGap (some indent) (rest.length + 1) Gap.none
        ⟨rest, index + word.length, line, column + word.length⟩ with
      | none => none
      | some (gap', after) =>
        if after.column < indent then some (word.reverse ++ (gap.text.reverse ++ done), gap'.broken, after)
        else plainFrom false indent fuel (word.reverse ++ (gap.text.reverse ++ done)) gap' after := by
  obtain ⟨c, others, rfl, notBlank, notComment⟩ := starts
  obtain ⟨d, after, rfl⟩ := List.exists_cons_of_ne_nil isThere
  have outside : (⟨c :: others ++ d :: after, index, line, column⟩ : Cursor).atMarker = false := by
    rw [Cursor.atMarker, beq_eq_false_iff_ne.mpr (Nat.ne_of_gt inside), Bool.false_and]
  have noComment : ((c :: others ++ d :: after).head? == some '#') = false := by simp [notComment]
  have enough : (c :: others).length < (c :: others ++ d :: after).length + 1 := by
    rw [List.length_append]
    omega
  have read := plainWord_word isWord (.inl stops) enough [] index line column
  rw [List.append_nil] at read
  have isRead : (c :: others).reverse.isEmpty = false := by simp
  have isMark : (isBlank d || isBreak d) = true := stops
  have unfolded := plainFrom.eq_def false indent (fuel + 1) done gap ⟨c :: others ++ d :: after, index, line, column⟩
  simp only [outside, noComment, read, isRead, isMark, Bool.or_false, Bool.false_eq_true, if_false, Bool.not_true,
    Bool.not_false, Bool.true_and, decide_eq_true_eq] at unfolded
  exact unfolded

theorem plainFrom_comment (indent fuel : Nat) (done : List Char) (gap : Gap) (rest : List Char)
    (index line column : Nat) :
    plainFrom false indent fuel done gap ⟨'#' :: rest, index, line, column⟩ =
      some (done, gap.broken, ⟨'#' :: rest, index, line, column⟩) := by
  cases fuel with
  | zero => rfl
  | succ fuel => rw [plainFrom, List.head?_cons, beq_self_eq_true, Bool.or_true, if_pos rfl]

theorem plainFrom_colon {word rest : List Char} (isWord : IsWord word (':' :: rest)) (starts : StartsWord word)
    (isBlank : startsBlank rest = true) {index line column : Nat}
    (outside : (⟨word ++ ':' :: rest, index, line, column⟩ : Cursor).atMarker = false) (indent fuel : Nat)
    (done : List Char) (gap : Gap) :
    plainFrom false indent (fuel + 1) done gap ⟨word ++ ':' :: rest, index, line, column⟩ =
      some (word.reverse ++ (gap.text.reverse ++ done), false,
        ⟨':' :: rest, index + word.length, line, column + word.length⟩) := by
  obtain ⟨c, others, rfl, notBlank, notComment⟩ := starts
  have noComment : ((c :: others ++ ':' :: rest).head? == some '#') = false := by simp [notComment]
  have enough : (c :: others).length < (c :: others ++ ':' :: rest).length + 1 := by
    rw [List.length_append]
    omega
  have read := plainWord_word isWord (.inr isBlank) enough [] index line column
  rw [List.append_nil] at read
  have isRead : (c :: others).reverse.isEmpty = false := by simp
  have unfolded := plainFrom.eq_def false indent (fuel + 1) done gap ⟨c :: others ++ ':' :: rest, index, line, column⟩
  simp only [outside, noComment, read, isRead, Bool.or_false, Bool.false_eq_true, if_false] at unfolded
  exact unfolded.trans (if_pos rfl)

inductive EndsScalar : List Char → Bool → List Char → Prop
  | line {tail left : List Char} {broken : Bool} (ends : EndsLine tail broken left) : EndsScalar tail broken left
  | colon {rest : List Char} (isBlank : startsBlank rest = true) : EndsScalar (':' :: rest) false (':' :: rest)

theorem EndsLine.eq_comment {tail left : List Char} (ends : EndsLine tail false left) :
    ∃ rest, left = '#' :: rest := by
  cases ends with
  | comment _ _ rest => exact ⟨rest, rfl⟩

theorem words_of_continuesPlain {text : List Char} (plain : continuesPlain text = true) (starts : StartsWord text) :
    (∀ c ∈ text, isBlank c = false) ∨
      ∃ word blanks others, text = word ++ (blanks ++ others) ∧ StartsWord word ∧ (∀ c ∈ word, isBlank c = false) ∧
        blanks ≠ [] ∧ (∀ c ∈ blanks, isBlank c = true) ∧ StartsWord others ∧ continuesPlain others = true := by
  obtain ⟨c, rest, rfl, notBlank, notComment⟩ := starts
  generalize isWord : rest.takeWhile (fun c => !isBlank c) = word
  generalize isBehind : rest.dropWhile (fun c => !isBlank c) = behind
  have parts : rest = word ++ behind := by rw [← isWord, ← isBehind, List.takeWhile_append_dropWhile]
  have noBlanks : ∀ d ∈ c :: word, isBlank d = false := by
    intro d member
    rcases List.mem_cons.mp member with rfl | inWord
    · exact notBlank
    · rw [← isWord] at inWord
      simpa using List.mem_takeWhile_imp inWord
  cases behind with
  | nil =>
    rw [parts, List.append_nil]
    exact .inl noBlanks
  | cons d behind =>
    have stops := List.head_dropWhile_not (p := fun c => !isBlank c) (l := rest) (by simp [isBehind])
    simp only [isBehind, List.head_cons, Bool.not_eq_false'] at stops
    generalize isBlanks : behind.takeWhile isBlank = blanks
    generalize isOthers : behind.dropWhile isBlank = others
    have gap : behind = blanks ++ others := by rw [← isBlanks, ← isOthers, List.takeWhile_append_dropWhile]
    have areBlank : ∀ e ∈ d :: blanks, isBlank e = true := by
      intro e member
      rcases List.mem_cons.mp member with rfl | inBlanks
      · exact stops
      · rw [← isBlanks] at inBlanks
        exact List.mem_takeWhile_imp inBlanks
    obtain ⟨front, last, isLast⟩ := (List.eq_nil_or_concat (d :: blanks)).resolve_left (List.cons_ne_nil _ _)
    rw [List.concat_eq_append] at isLast
    have isText : c :: rest = c :: word ++ (d :: blanks ++ others) := by
      rw [parts, gap]
      rfl
    rw [isText] at plain ⊢
    have plainLast : continuesPlain ([last] ++ others) = true := by
      rw [isLast, List.append_assoc, ← List.append_assoc] at plain
      exact continuesPlain_of_append plain
    obtain ⟨goesOn, noComment⟩ := (continuesPlain_cons plainLast).2.2
      (areBlank last (isLast ▸ List.mem_append_right _ (.head _)))
    refine .inr ⟨c :: word, d :: blanks, others, rfl, ⟨c, word, rfl, notBlank, notComment⟩, noBlanks,
      List.cons_ne_nil _ _, areBlank, ?_, continuesPlain_of_append plainLast⟩
    have notBlank := List.head_dropWhile_not (p := isBlank) (l := behind) (by rw [isOthers]; exact goesOn)
    obtain ⟨e, more, rfl⟩ := List.exists_cons_of_ne_nil goesOn
    simp only [isOthers, List.head_cons] at notBlank
    refine ⟨e, more, rfl, notBlank, ?_⟩
    rintro rfl
    exact noComment rfl

theorem plainFrom_last {word tail left : List Char} {broken : Bool} (isWord : IsWord word tail)
    (starts : StartsWord word) (ends : EndsScalar tail broken left) {indent column : Nat} (deep : 0 < indent)
    (inside : indent ≤ column) (fuel : Nat) (done : List Char) (gap : Gap) (index line : Nat) :
    ∃ index' line' column', (broken = true → column' = 0) ∧ (broken = false → column ≤ column') ∧
      plainFrom false indent (fuel + 1) done gap ⟨word ++ tail, index, line, column⟩ =
        some (word.reverse ++ (gap.text.reverse ++ done), broken, ⟨left, index', line', column'⟩) := by
  cases ends with
  | colon isBlank =>
    refine ⟨index + word.length, line, column + word.length, nofun, fun _ => Nat.le_add_right _ _, ?_⟩
    refine plainFrom_colon isWord starts isBlank ?_ indent fuel done gap
    rw [Cursor.atMarker, beq_eq_false_iff_ne.mpr (show column ≠ 0 by omega), Bool.false_and]
  | line ends =>
    obtain ⟨gap', index', line', column', isBroken, onLine, further, read⟩ :=
      ends.readGap (some indent) (index + word.length) line (column + word.length)
    refine ⟨index', line', column', onLine, fun same => (Nat.le_add_right _ _).trans (further same), ?_⟩
    rw [plainFrom_word isWord starts ends.startsBlank ends.ne_nil (by omega), read]
    dsimp only
    cases broken with
    | true => rw [if_pos (by rw [onLine rfl]; exact deep), isBroken]
    | false =>
      have deeper := further rfl
      obtain ⟨rest, rfl⟩ := ends.eq_comment
      rw [if_neg (by omega), plainFrom_comment, isBroken]

/-- A plain scalar of one line is read as it is written. -/
theorem plainFrom_line {text tail left : List Char} {broken : Bool} (plain : continuesPlain text = true)
    (starts : StartsWord text) (ends : EndsScalar tail broken left) {indent column : Nat} (deep : 0 < indent)
    (inside : indent ≤ column) {fuel : Nat} (enough : text.length < fuel) (done : List Char) (gap : Gap)
    (index line : Nat) :
    ∃ index' line' column', (broken = true → column' = 0) ∧ (broken = false → column ≤ column') ∧
      plainFrom false indent fuel done gap ⟨text ++ tail, index, line, column⟩ =
        some (text.reverse ++ (gap.text.reverse ++ done), broken, ⟨left, index', line', column'⟩) := by
  induction fuel generalizing text done gap index line column with
  | zero => cases enough
  | succ fuel ih =>
    rcases words_of_continuesPlain plain starts with noBlanks | ⟨word, blanks, others, rfl, startsWord, noBlanks,
      isThere, areBlank, startsOthers, plainOthers⟩
    · have isWord : IsWord text tail := by
        rw [← List.append_nil text] at plain
        exact isWord_of_continuesPlain plain noBlanks tail
      exact plainFrom_last isWord starts ends deep inside fuel done gap index line
    · -- a gap within the line, and the other words behind it
      obtain ⟨b, blanks', isBlanks⟩ := List.exists_cons_of_ne_nil isThere
      have stops : startsBlank (blanks ++ (others ++ tail)) = true := by
        rw [isBlanks]
        exact startsBlank_cons (.inl (areBlank b (isBlanks ▸ .head _))) _
      have isText : IsText (others ++ tail) := by
        obtain ⟨c, rest, rfl, notBlank, _⟩ := startsOthers
        rintro _ ⟨⟩
        exact ⟨notBlank, isBreak_of_continuesPlain plainOthers c (.head _)⟩
      have isWord := isWord_of_continuesPlain plain noBlanks tail
      rw [List.append_assoc] at isWord
      have read := (readGap_blanks areBlank (some indent) ((others ++ tail).length + 1) [] (others ++ tail)
        (index + word.length) line (column + word.length)).trans (readGap_text isText _ _ _ _ line _)
      have isLength : (blanks ++ (others ++ tail)).length + 1 = blanks.length + ((others ++ tail).length + 1) := by
        rw [List.length_append, Nat.add_assoc]
      rw [List.append_assoc, List.append_assoc,
        plainFrom_word isWord startsWord stops (by simp [isThere]) (by omega), isLength]
      simp only [Gap.none, read]
      rw [if_neg (by omega)]
      have shorter : others.length < fuel := by
        obtain ⟨c, rest, rfl, _⟩ := startsWord
        simp only [List.length_append, List.length_cons] at enough
        omega
      obtain ⟨index', line', column', onLine, further, isRest⟩ := ih plainOthers startsOthers
        (show indent ≤ column + word.length + blanks.length by omega) shorter
        (word.reverse ++ (gap.text.reverse ++ done)) ⟨blanks, [], [], false⟩ (index + word.length + blanks.length) line
      refine ⟨index', line', column', onLine, fun same => ?_, ?_⟩
      · have := further same
        omega
      rw [List.nil_append, isRest]
      simp only [Gap.text, Bool.not_false, if_true, List.reverse_append, List.append_assoc]

end Yaml
end WireContract

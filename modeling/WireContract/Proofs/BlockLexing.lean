import WireContract.Proofs.PlainScalars

namespace WireContract
namespace Yaml

namespace Lexer

variable {lexer : Lexer}

def behindBlanks (lexer : Lexer) : Cursor :=
  let isSkipped (c : Char) : Bool := c == ' ' || ((lexer.inFlow || !lexer.keyAllowed) && c == '\t')
  (lexer.cursor.skipOrderMark.skipWhile isSkipped).skipComment

theorem skipLayout_succ (fuel : Nat) (lexer : Lexer) :
    skipLayout (fuel + 1) lexer =
      match lexer.behindBlanks.rest with
      | c :: _ =>
        if isBreak c then
          let lexer := lexer.moveTo lexer.behindBlanks.nextLine.2
          skipLayout fuel (if lexer.inFlow then lexer else lexer.allowKey true)
        else lexer.moveTo lexer.behindBlanks
      | [] => lexer.moveTo lexer.behindBlanks := rfl

theorem length_skipComment_le (cursor : Cursor) : cursor.skipComment.rest.length ≤ cursor.rest.length := by
  unfold Cursor.skipComment
  split
  · simp [Cursor.skipWhile, Cursor.skip]
  · exact Nat.le_refl _

theorem length_behindBlanks_le (lexer : Lexer) : lexer.behindBlanks.rest.length ≤ lexer.cursor.rest.length := by
  refine (length_skipComment_le _).trans ?_
  have noMark : lexer.cursor.skipOrderMark.rest.length ≤ lexer.cursor.rest.length := by
    unfold Cursor.skipOrderMark
    split
    · split
      · simp [Cursor.next]
      · exact Nat.le_refl _
    · exact Nat.le_refl _
  simp only [Cursor.skipWhile, Cursor.skip, List.length_drop]
  omega

theorem length_nextLine_lt {cursor : Cursor} {c : Char} {rest : List Char} (isRest : cursor.rest = c :: rest)
    (isBreak : isBreak c = true) : cursor.nextLine.2.rest.length < cursor.rest.length := by
  unfold Cursor.nextLine
  split
  · next both =>
    rw [both]
    exact Nat.lt_of_succ_lt (Nat.lt_succ_self _)
  · next d more _ isMore =>
    rw [isRest] at isMore
    obtain ⟨rfl, rfl⟩ := List.cons.inj isMore
    rw [isRest, if_pos isBreak]
    split <;> exact Nat.lt_succ_self _
  · next isEmpty =>
    rw [isEmpty] at isRest
    cases isRest

theorem skipLayout_enough {fuel other : Nat} (enough : lexer.cursor.rest.length < fuel)
    (suffices' : lexer.cursor.rest.length < other) : skipLayout fuel lexer = skipLayout other lexer := by
  induction fuel generalizing lexer other with
  | zero => cases enough
  | succ fuel ih =>
    obtain ⟨other, rfl⟩ := Nat.exists_eq_add_of_lt (Nat.zero_lt_of_lt suffices')
    rw [Nat.zero_add] at suffices' ⊢
    rw [skipLayout_succ, skipLayout_succ]
    cases isRest : lexer.behindBlanks.rest with
    | nil => rfl
    | cons c rest =>
      dsimp only
      split
      · next isBreak =>
        have shorter := length_nextLine_lt isRest isBreak
        have atMost := length_behindBlanks_le lexer
        split
        · exact ih (by simp only [moveTo]; omega) (by simp only [moveTo]; omega)
        · exact ih (by simp only [moveTo, allowKey]; omega) (by simp only [moveTo, allowKey]; omega)
      · rfl

theorem run_eq_of_skipLayout {other : Lexer}
    (same : lexer.skipLayout (lexer.cursor.rest.length + 1) = other.skipLayout (other.cursor.rest.length + 1))
    (fuel : Nat) : lexer.run fuel = other.run fuel := by
  cases fuel with
  | zero => rfl
  | succ fuel => rw [run, run, same]

theorem closeBlocks_of_le {column : Int} (deep : lexer.indent ≤ column) : lexer.closeBlocks column = lexer := by
  unfold closeBlocks
  split
  · rfl
  · cases lexer.indents with
    | nil => rfl
    | cons outer rest => exact if_neg (by omega)

theorem run_step (stays : lexer.skipLayout (lexer.cursor.rest.length + 1) = lexer)
    (fresh : lexer.dropStaleKeys = some lexer) (deep : lexer.indent ≤ lexer.cursor.column)
    (isThere : lexer.cursor.rest ≠ []) (fuel : Nat) : lexer.run (fuel + 1) = lexer.token.bind (run fuel) := by
  have goesOn : lexer.cursor.rest.isEmpty = false := by simpa using isThere
  rw [run, stays, fresh]
  dsimp only
  rw [closeBlocks_of_le deep, goesOn]
  cases lexer.token <;> rfl

theorem atMarker_of_head {cursor : Cursor} {c : Char} {rest : List Char} (isRest : cursor.rest = c :: rest)
    (other : c ≠ '-' ∧ c ≠ '.') : cursor.atMarker = false := by
  refine Bool.and_eq_false_imp.mpr fun _ => ?_
  rw [isRest]
  split
  · next isMarker => exact absurd (List.cons.inj isMarker).1 other.1
  · next isMarker => exact absurd (List.cons.inj isMarker).1 other.2
  · rfl

theorem token_quote {rest : List Char} (isRest : lexer.cursor.rest = '"' :: rest) :
    lexer.token = lexer.quoted false := by
  have noMarker := atMarker_of_head isRest (by decide)
  have unfolded := token.eq_def lexer
  simp only [isRest, noMarker] at unfolded
  simpa using unfolded

theorem token_colon {rest : List Char} (isRest : lexer.cursor.rest = ':' :: rest)
    (isBlank : startsBlank rest = true) : lexer.token = lexer.value := by
  have noMarker := atMarker_of_head isRest (by decide)
  have unfolded := token.eq_def lexer
  simp only [isRest, noMarker, isBlank] at unfolded
  simpa using unfolded

theorem token_plain {c : Char} {rest : List Char} (isRest : lexer.cursor.rest = c :: rest)
    (outside : lexer.inFlow = false) (starts : startsPlain false (c :: rest) = true)
    (noEntry : c = '-' ∨ c = '?' ∨ c = ':' → startsBlank rest = false)
    (inside : 0 < lexer.cursor.column ∨ c.isAlpha = true) : lexer.token = lexer.plain := by
  have other (d : Char) (never : startsPlain false (d :: rest) = false) : (c == d) = false := by
    refine beq_eq_false_iff_ne.mpr ?_
    rintro rfl
    rw [starts] at never
    cases never
  have entry (d : Char) (isEntry : d = '-' ∨ d = '?' ∨ d = ':') : (c == d && startsBlank rest) = false := by
    refine Bool.and_eq_false_imp.mpr fun same => noEntry ?_
    rwa [eq_of_beq same]
  have noMarker : lexer.cursor.atMarker = false := by
    rcases inside with inside | isAlpha
    · exact Bool.and_eq_false_imp.mpr fun atMargin => absurd (eq_of_beq atMargin) (Nat.ne_of_gt inside)
    · refine atMarker_of_head isRest ⟨?_, ?_⟩ <;> rintro rfl <;> cases isAlpha
  have unfolded := token.eq_def lexer
  simp only [isRest, outside, noMarker, starts, other '%' rfl, other '[' rfl, other '\x7b' rfl, other ']' rfl,
    other '\x7d' rfl, other ',' rfl, other '*' rfl, other '&' rfl, other '!' rfl, other '|' rfl, other '>' rfl,
    other '\'' rfl, other '"' rfl, entry '-' (.inl rfl), entry '?' (.inr (.inl rfl)), entry ':' (.inr (.inr rfl)),
    Bool.and_false, Bool.false_and, Bool.false_or, Bool.false_eq_true, if_false, if_true] at unfolded
  exact unfolded

theorem token_reserved {c : Char} {rest : List Char} (isRest : lexer.cursor.rest = c :: rest)
    (inside : 0 < lexer.cursor.column) (outside : lexer.inFlow = false) (reserved : c = '%' ∨ c = '@' ∨ c = '\x60') :
    lexer.token = none := by
  have noMarker : lexer.cursor.atMarker = false := by
    refine atMarker_of_head isRest ?_
    rcases reserved with rfl | rfl | rfl <;> decide
  have notAtMargin : (lexer.cursor.column == 0) = false := beq_eq_false_iff_ne.mpr (Nat.ne_of_gt inside)
  have unfolded := token.eq_def lexer
  simp only [isRest, noMarker, outside, notAtMargin] at unfolded
  rcases reserved with rfl | rfl | rfl <;> simpa [startsPlain] using unfolded

theorem token_entry {c : Char} {rest : List Char} (isRest : lexer.cursor.rest = c :: rest)
    (inside : 0 < lexer.cursor.column) (outside : lexer.inFlow = false) (noKey : lexer.keyAllowed = false)
    (noKeys : lexer.keys = [none]) (isEntry : c = '-' ∨ c = '?' ∨ c = ':') (isBlank : startsBlank rest = true) :
    lexer.token = none := by
  have noMarker : lexer.cursor.atMarker = false :=
    Bool.and_eq_false_imp.mpr fun atMargin => absurd (eq_of_beq atMargin) (Nat.ne_of_gt inside)
  have notAtMargin : (lexer.cursor.column == 0) = false := beq_eq_false_iff_ne.mpr (Nat.ne_of_gt inside)
  have unfolded := token.eq_def lexer
  simp only [isRest, noMarker, outside, notAtMargin, isBlank] at unfolded
  rcases isEntry with rfl | rfl | rfl <;>
    simpa [blockEntry, explicitKey, value, openEntry, outside, noKey, noKeys] using unfolded

theorem plain_eq {noted : Lexer} {done : List Char} {broken : Bool} {after : Cursor}
    (notes : lexer.noteKey = some noted)
    (read : plainFrom noted.inFlow (noted.indent + 1).toNat (noted.cursor.rest.length + 1) [] Gap.none noted.cursor =
      some (done, broken, after)) :
    lexer.plain =
      some (((noted.allowKey broken).moveTo after).emit (.scalar (String.ofList done.reverse) .plain)) := by
  rw [plain, notes]
  exact congrArg (Option.map _) read

theorem quoted_eq {noted : Lexer} {done : List Char} {after : Cursor} (notes : lexer.noteKey = some noted)
    (read : quotedFrom false (noted.cursor.rest.length + 1) [] noted.cursor.next = some (done, after)) :
    lexer.quoted false =
      some (((noted.allowKey false).moveTo after).emit (.scalar (String.ofList done.reverse) .doubleQuoted)) := by
  rw [quoted, keyPart, notes]
  show ((quotedFrom false (noted.cursor.rest.length + 1) [] noted.cursor.next).map _).map _ = _
  rw [read]
  rfl

end Lexer

/-- A place outside brackets at which no key has started: the tokens before it, the blocks it stands in, and
the text from there on. -/
structure BlockPlace where
  tokens : List Token
  indent : Int
  indents : List Int
  keyAllowed : Bool
  column : Nat
  text : List Char

def BlockPlace.lexer (place : BlockPlace) (index line : Nat) : Lexer :=
  ⟨⟨place.text, index, line, place.column⟩, place.tokens.toArray, place.indent, place.indents, 0,
    place.keyAllowed, [none]⟩

/-- The run from one place comes to another one after this many steps. -/
def Lexes (steps : Nat) (before after : BlockPlace) : Prop :=
  ∀ index line, ∃ index' line', ∀ fuel,
    (before.lexer index line).run (fuel + steps) = (after.lexer index' line').run fuel

theorem Lexes.trans {first second : Nat} {before between after : BlockPlace} (lexes : Lexes first before between)
    (goesOn : Lexes second between after) : Lexes (second + first) before after := by
  intro index line
  obtain ⟨index, line, isBetween⟩ := lexes index line
  obtain ⟨index', line', isAfter⟩ := goesOn index line
  exact ⟨index', line', fun fuel => by rw [← Nat.add_assoc, isBetween, isAfter]⟩

def AreSkipped (keyAllowed : Bool) (blanks : List Char) : Prop :=
  ∀ c ∈ blanks, c = ' ' ∨ (keyAllowed = false ∧ c = '\t')

theorem areSkipped_replicate (keyAllowed : Bool) (count : Nat) :
    AreSkipped keyAllowed (List.replicate count ' ') :=
  fun _ member => .inl (List.eq_of_mem_replicate member)

inductive IsLayout (keyAllowed : Bool) : List Char → Prop
  | blank {blanks : List Char} (skipped : AreSkipped keyAllowed blanks) : IsLayout keyAllowed blanks
  | comment {blanks rest : List Char} (skipped : AreSkipped keyAllowed blanks)
      (onLine : ∀ c ∈ rest, isBreak c = false) : IsLayout keyAllowed (blanks ++ '#' :: rest)

structure StartsToken (column : Nat) (text : List Char) : Prop where
  isThere : text ≠ []
  isText : IsText text
  noComment : text.head? ≠ some '#'
  noMark : 0 < column ∨ text.head? ≠ some '\ufeff'

theorem startsToken_cons {c : Char} (isText : isBlank c = false ∧ isBreak c = false)
    (other : c ≠ '#' ∧ c ≠ '\ufeff') (column : Nat) (rest : List Char) : StartsToken column (c :: rest) where
  isThere := List.cons_ne_nil c rest
  isText := by
    rintro _ ⟨⟩
    exact isText
  noComment same := other.1 (Option.some.inj same)
  noMark := .inr fun same => other.2 (Option.some.inj same)

section Layout

variable {emitted : Array Token} {keys : List (Option PossibleKey)} {tokens : List Token} {indent : Int}
  {indents : List Int} {keyAllowed : Bool} {column index line : Nat}

theorem behindBlanks_append {blanks text : List Char} (skipped : AreSkipped keyAllowed blanks)
    (stops : ∀ c ∈ text.head?, c ≠ ' ' ∧ c ≠ '\t') (noMark : blanks = [] → 0 < column ∨ text.head? ≠ some '\ufeff') :
    (⟨⟨blanks ++ text, index, line, column⟩, emitted, indent, indents, 0, keyAllowed, keys⟩ :
        Lexer).behindBlanks =
      (⟨text, index + blanks.length, line, column + blanks.length⟩ : Cursor).skipComment := by
  have stays : (⟨blanks ++ text, index, line, column⟩ : Cursor).skipOrderMark =
      ⟨blanks ++ text, index, line, column⟩ := by
    unfold Cursor.skipOrderMark
    split
    · next rest isMark =>
      cases blanks with
      | nil =>
        have inside : 0 < column := (noMark rfl).resolve_right fun other => other (congrArg List.head? isMark)
        exact if_neg (by simpa using Nat.ne_of_gt inside)
      | cons c blanks =>
        obtain ⟨rfl, _⟩ := List.cons.inj isMark
        rcases skipped _ (.head _) with same | ⟨_, same⟩ <;> cases same
    · rfl
  have all : ∀ c ∈ blanks, (c == ' ' || ((false || !keyAllowed) && c == '\t')) = true := by
    intro c member
    rcases skipped c member with rfl | ⟨rfl, rfl⟩ <;> rfl
  have ends : text.takeWhile (fun c => c == ' ' || ((false || !keyAllowed) && c == '\t')) = [] := by
    cases text with
    | nil => rfl
    | cons c text =>
      obtain ⟨noSpace, noTab⟩ := stops c rfl
      rw [List.takeWhile_cons_of_neg]
      simp [noSpace, noTab]
  have cut : (⟨blanks ++ text, index, line, column⟩ : Cursor).skipWhile
        (fun c => c == ' ' || ((false || !keyAllowed) && c == '\t')) =
      ⟨text, index + blanks.length, line, column + blanks.length⟩ := by
    rw [Cursor.skipWhile, List.takeWhile_append_of_pos all, ends, List.append_nil, Cursor.skip, List.drop_left]
  show ((⟨blanks ++ text, index, line, column⟩ : Cursor).skipOrderMark.skipWhile
    fun c => c == ' ' || ((false || !keyAllowed) && c == '\t')).skipComment = _
  rw [stays, cut]

theorem lexes_layout {layout : List Char} (isLayout : IsLayout keyAllowed layout) (text : List Char) :
    Lexes 0 ⟨tokens, indent, indents, keyAllowed, column, layout ++ '\n' :: text⟩
      ⟨tokens, indent, indents, true, 0, text⟩ := by
  intro index line
  refine ⟨index + layout.length + 1, line + 1, Lexer.run_eq_of_skipLayout ?_⟩
  have behind : (BlockPlace.lexer ⟨tokens, indent, indents, keyAllowed, column, layout ++ '\n' :: text⟩ index
      line).behindBlanks = ⟨'\n' :: text, index + layout.length, line, column + layout.length⟩ := by
    cases isLayout with
    | blank skipped =>
      refine (behindBlanks_append skipped ?_ ?_).trans rfl
      · rintro _ ⟨⟩
        decide
      · exact fun _ => .inr fun same => by cases Option.some.inj same
    | @comment blanks rest skipped onLine =>
      rw [List.append_assoc]
      refine (behindBlanks_append skipped ?_ ?_).trans ?_
      · rintro _ ⟨⟩
        decide
      · exact fun _ => .inr fun same => by cases Option.some.inj same
      · have all : ∀ c ∈ '#' :: rest, (!isBreak c) = true := by
          intro c member
          rcases List.mem_cons.mp member with rfl | inRest
          · rfl
          · rw [onLine c inRest]
            rfl
        have isLine : ('#' :: rest ++ '\n' :: text).takeWhile (fun c => !isBreak c) = '#' :: rest := by
          rw [List.takeWhile_append_of_pos all]
          exact List.append_nil _
        show Cursor.skipWhile _ _ = _
        rw [Cursor.skipWhile, isLine, Cursor.skip, List.drop_left, List.length_append, Nat.add_assoc, Nat.add_assoc]
  rw [Lexer.skipLayout_succ, behind]
  refine Lexer.skipLayout_enough ?_ (Nat.lt_succ_self _)
  show text.length < (layout ++ '\n' :: text).length
  rw [List.length_append, List.length_cons]
  omega

theorem skipLayout_token {blanks text : List Char} (skipped : AreSkipped keyAllowed blanks)
    (starts : StartsToken (column + blanks.length) text) (fuel : Nat) :
    (⟨⟨blanks ++ text, index, line, column⟩, emitted, indent, indents, 0, keyAllowed, keys⟩ : Lexer).skipLayout
        (fuel + 1) =
      ⟨⟨text, index + blanks.length, line, column + blanks.length⟩, emitted, indent, indents, 0, keyAllowed,
        keys⟩ := by
  obtain ⟨isThere, isText, noComment, noMark⟩ := starts
  obtain ⟨c, rest, rfl⟩ := List.exists_cons_of_ne_nil isThere
  obtain ⟨notBlank, notBreak⟩ := isText c rfl
  have stops : ∀ d ∈ (c :: rest).head?, d ≠ ' ' ∧ d ≠ '\t' := by
    rintro _ ⟨⟩
    constructor <;> rintro rfl <;> cases notBlank
  have behind : (⟨⟨blanks ++ c :: rest, index, line, column⟩, emitted, indent, indents, 0, keyAllowed, keys⟩ :
      Lexer).behindBlanks = _ := behindBlanks_append skipped stops (by rintro rfl; exact noMark)
  have stays : (⟨c :: rest, index + blanks.length, line, column + blanks.length⟩ : Cursor).skipComment =
      ⟨c :: rest, index + blanks.length, line, column + blanks.length⟩ := by
    unfold Cursor.skipComment
    split
    · next isComment => exact absurd (congrArg List.head? isComment) noComment
    · rfl
  rw [Lexer.skipLayout_succ, behind, stays]
  dsimp only
  rw [notBreak]
  rfl

theorem lexes_blanks {blanks text : List Char} (skipped : AreSkipped keyAllowed blanks)
    (starts : StartsToken (column + blanks.length) text) :
    Lexes 0 ⟨tokens, indent, indents, keyAllowed, column, blanks ++ text⟩
      ⟨tokens, indent, indents, keyAllowed, column + blanks.length, text⟩ := by
  intro index line
  refine ⟨index + blanks.length, line, Lexer.run_eq_of_skipLayout ?_⟩
  have noBlanks := areSkipped_replicate keyAllowed 0
  exact (skipLayout_token skipped starts _).trans (skipLayout_token noBlanks starts _).symm

theorem run_token {text : List Char} (starts : StartsToken column text) (deep : indent ≤ column) (fuel : Nat) :
    (BlockPlace.lexer ⟨tokens, indent, indents, keyAllowed, column, text⟩ index line).run (fuel + 1) =
      (BlockPlace.lexer ⟨tokens, indent, indents, keyAllowed, column, text⟩ index line).token.bind
        (Lexer.run fuel) := by
  have noBlanks := areSkipped_replicate keyAllowed 0
  refine Lexer.run_step ?_ rfl deep starts.isThere fuel
  exact skipLayout_token noBlanks starts _

end Layout

section Scalars

variable {tokens : List Token} {indent : Int} {indents : List Int} {column : Nat}

theorem start_of_isPlainLine {text : List Char} (isPlain : isPlainLine text = true) (tail : List Char) :
    ∃ c rest, text = c :: rest ∧ Lexer.startsPlain false (c :: (rest ++ tail)) = true ∧
      (c = '-' ∨ c = '?' ∨ c = ':' → startsBlank (rest ++ tail) = false) := by
  simp only [isPlainLine, Bool.and_eq_true, Bool.not_eq_true'] at isPlain
  obtain ⟨⟨⟨_, starts⟩, noEntry⟩, _⟩ := isPlain
  obtain _ | ⟨c, rest⟩ := text
  · cases starts
  have noEntry (isEntry : c = '-' ∨ c = '?' ∨ c = ':') : startsBlank rest = false := by
    rcases isEntry with rfl | rfl | rfl <;> exact noEntry
  have goesOn (isEntry : c = '-' ∨ c = '?' ∨ c = ':') : startsBlank (rest ++ tail) = false :=
    startsBlank_append (noEntry isEntry) tail
  refine ⟨c, rest, rfl, ?_, goesOn⟩
  simp only [Lexer.startsPlain, Bool.or_eq_true, Bool.and_eq_true, beq_iff_eq] at starts ⊢
  rcases starts with (others | ⟨isDash, _⟩) | ⟨⟨outside, isMark⟩, _⟩
  · exact .inl (.inl others)
  · refine .inl (.inr ⟨isDash, ?_⟩)
    have inText := goesOn (.inl isDash)
    cases behind : rest ++ tail with
    | nil => rfl
    | cons d more =>
      rw [behind] at inText
      simpa using (Bool.or_eq_false_iff.mp inText).1
  · refine .inr ⟨⟨outside, isMark⟩, ?_⟩
    rw [goesOn (.inr isMark)]
    rfl

theorem startsToken_of_startsPlain {c : Char} {rest : List Char} (starts : Lexer.startsPlain false (c :: rest) = true)
    (noMark : 0 < column ∨ c ≠ '\ufeff') : StartsToken column (c :: rest) where
  isThere := List.cons_ne_nil c rest
  isText := by
    rintro _ ⟨⟩
    simp only [Lexer.startsPlain, Bool.or_eq_true, Bool.and_eq_true, beq_iff_eq, Bool.not_eq_true'] at starts
    rcases starts with (⟨isText, _⟩ | ⟨rfl, _⟩) | ⟨⟨_, rfl | rfl⟩, _⟩
    · exact isText
    · exact ⟨rfl, rfl⟩
    · exact ⟨rfl, rfl⟩
    · exact ⟨rfl, rfl⟩
  noComment := by
    intro isComment
    obtain rfl := Option.some.inj isComment
    cases starts
  noMark := noMark.imp id fun other same => other (Option.some.inj same)

/-- What may stand behind a plain scalar of one line: blanks, and a comment behind them, up to the end of the
line, and empty lines in front of the next text. -/
inductive EndsPlain : List Char → List Char → Prop
  | line {blanks : List Char} (areBlank : ∀ c ∈ blanks, isBlank c = true) (count : Nat) {text : List Char}
      (isText : IsText text) : EndsPlain (blanks ++ '\n' :: (List.replicate count '\n' ++ text)) text
  | comment {blanks rest : List Char} (areBlank : ∀ c ∈ blanks, isBlank c = true) (isThere : blanks ≠ [])
      (onLine : ∀ c ∈ rest, isBreak c = false) (text : List Char) :
      EndsPlain (blanks ++ '#' :: (rest ++ '\n' :: text)) text

theorem EndsPlain.endsScalar {tail text : List Char} (ends : EndsPlain tail text) :
    EndsScalar tail true text ∨ ∃ rest, EndsScalar tail false ('#' :: rest ++ '\n' :: text) ∧
      ∀ c ∈ rest, isBreak c = false := by
  cases ends with
  | line areBlank count isText => exact .inl (.line (.line areBlank count isText))
  | @comment blanks rest areBlank isThere onLine => exact .inr ⟨rest, .line (.comment areBlank isThere _), onLine⟩

theorem plain_line {text tail left : List Char} {broken : Bool} (isPlain : isPlainLine text = true)
    (ends : EndsScalar tail broken left) (nested : 0 ≤ indent) (deep : indent < column) (index line : Nat) :
    ∃ index' line' column', (broken = true → column' = 0) ∧ (broken = false → column ≤ column') ∧
      (BlockPlace.lexer ⟨tokens, indent, indents, false, column, text ++ tail⟩ index line).plain =
        some (BlockPlace.lexer ⟨tokens ++ [.scalar (String.ofList text) .plain], indent, indents, broken, column',
          left⟩ index' line') := by
  have continues : continuesPlain text = true := by
    simp only [isPlainLine, Bool.and_eq_true] at isPlain
    exact isPlain.2
  have starts : StartsWord text := by
    obtain ⟨c, rest, rfl, starts, _⟩ := start_of_isPlainLine isPlain []
    have isToken : StartsToken 1 _ := startsToken_of_startsPlain starts (.inl Nat.one_pos)
    exact ⟨c, rest, rfl, (isToken.isText c rfl).1, fun same => isToken.noComment (congrArg some same)⟩
  have enough : text.length < (text ++ tail).length + 1 := by
    rw [List.length_append]
    omega
  obtain ⟨index', line', column', onLine, further, read⟩ := plainFrom_line continues starts ends
    (show 0 < (indent + 1).toNat by omega) (show (indent + 1).toNat ≤ column by omega) enough [] Gap.none index line
  refine ⟨index', line', column', onLine, further, ?_⟩
  have notes : (BlockPlace.lexer ⟨tokens, indent, indents, false, column, text ++ tail⟩ index line).noteKey =
      some (BlockPlace.lexer ⟨tokens, indent, indents, false, column, text ++ tail⟩ index line) := rfl
  have isDone : (text.reverse ++ (Gap.none.text.reverse ++ [])).reverse = text := by
    simp [Gap.none, Gap.text]
  rw [Lexer.plain_eq notes read, isDone]
  simp [BlockPlace.lexer, Lexer.emit, Lexer.moveTo, Lexer.allowKey]

theorem run_plain {text tail : List Char} (isPlain : isPlainLine text = true) (nested : 0 ≤ indent)
    (deep : indent < column) (index line fuel : Nat) :
    (BlockPlace.lexer ⟨tokens, indent, indents, false, column, text ++ tail⟩ index line).run (fuel + 1) =
      (BlockPlace.lexer ⟨tokens, indent, indents, false, column, text ++ tail⟩ index line).plain.bind
        (Lexer.run fuel) := by
  have inside : 0 < column := by omega
  obtain ⟨c, rest, isText, starts, noEntry⟩ := start_of_isPlainLine isPlain tail
  have isToken : StartsToken column (text ++ tail) := by
    rw [isText]
    exact startsToken_of_startsPlain starts (.inl inside)
  rw [run_token isToken (Int.le_of_lt deep), Lexer.token_plain (by rw [isText]; rfl) rfl starts noEntry (.inl inside)]

theorem lexes_plain {text tail next : List Char} (isPlain : isPlainLine text = true) (ends : EndsPlain tail next)
    (nested : 0 ≤ indent) (deep : indent < column) :
    Lexes 1 ⟨tokens, indent, indents, false, column, text ++ tail⟩
      ⟨tokens ++ [.scalar (String.ofList text) .plain], indent, indents, true, 0, next⟩ := by
  intro index line
  rcases ends.endsScalar with endsScalar | ⟨comment, endsScalar, onLine⟩
  · obtain ⟨index', line', column', onLine, _, read⟩ := plain_line isPlain endsScalar nested deep index line
    obtain rfl := onLine rfl
    exact ⟨index', line', fun fuel => by rw [run_plain isPlain nested deep, read]; rfl⟩
  · obtain ⟨index', line', column', _, _, read⟩ := plain_line isPlain endsScalar nested deep index line
    have noBlanks := areSkipped_replicate false 0
    have skips : Lexes 0 ⟨tokens ++ [.scalar (String.ofList text) .plain], indent, indents, false, column',
        '#' :: comment ++ '\n' :: next⟩ _ := lexes_layout (.comment noBlanks onLine) next
    obtain ⟨index', line', isNext⟩ := skips index' line'
    exact ⟨index', line', fun fuel => by rw [run_plain isPlain nested deep, read]; exact isNext fuel⟩

/-- Texts that cannot be the value of a key, whatever follows on other lines: they start with a reserved character,
with the mark of an entry, or like a key of their own. -/
inductive Unreadable : List Char → Prop
  | reserved {c : Char} (isReserved : c = '%' ∨ c = '@' ∨ c = '\x60') (rest : List Char) : Unreadable (c :: rest)
  | entry {c : Char} {rest : List Char} (isEntry : c = '-' ∨ c = '?' ∨ c = ':') (isBlank : startsBlank rest = true) :
      Unreadable (c :: rest)
  | key {text rest : List Char} (isPlain : isPlainLine text = true) (isBlank : startsBlank rest = true) :
      Unreadable (text ++ ':' :: rest)

theorem Unreadable.line {text : List Char} (unreadable : Unreadable text) (lines : List Char) :
    Unreadable (text ++ '\n' :: lines) := by
  have goesOn {rest : List Char} (isBlank : startsBlank rest = true) : startsBlank (rest ++ '\n' :: lines) = true := by
    cases rest with
    | nil => rfl
    | cons c rest => exact isBlank
  cases unreadable with
  | reserved isReserved rest => exact .reserved isReserved _
  | entry isEntry isBlank => exact .entry isEntry (goesOn isBlank)
  | key isPlain isBlank =>
    rw [List.append_assoc]
    exact .key isPlain (goesOn isBlank)

theorem Unreadable.startsToken {text : List Char} (unreadable : Unreadable text) (inside : 0 < column) :
    StartsToken column text := by
  cases unreadable with
  | reserved isReserved rest =>
    rcases isReserved with rfl | rfl | rfl <;> exact startsToken_cons ⟨rfl, rfl⟩ (by decide) column rest
  | entry isEntry isBlank =>
    rcases isEntry with rfl | rfl | rfl <;> exact startsToken_cons ⟨rfl, rfl⟩ (by decide) column _
  | @key text rest isPlain isBlank =>
    obtain ⟨c, others, isText, starts, _⟩ := start_of_isPlainLine isPlain (':' :: rest)
    rw [isText]
    exact startsToken_of_startsPlain starts (.inl inside)

theorem run_unreadable {text : List Char} (unreadable : Unreadable text) (nested : 0 ≤ indent)
    (deep : indent < column) (index line fuel : Nat) :
    (BlockPlace.lexer ⟨tokens, indent, indents, false, column, text⟩ index line).run (fuel + 2) = none := by
  have inside : 0 < column := by omega
  have isToken := unreadable.startsToken inside
  cases unreadable with
  | reserved isReserved rest =>
    rw [run_token isToken (Int.le_of_lt deep), Lexer.token_reserved rfl inside rfl isReserved]
    rfl
  | entry isEntry isBlank =>
    rw [run_token isToken (Int.le_of_lt deep), Lexer.token_entry rfl inside rfl rfl rfl isEntry isBlank]
    rfl
  | @key text rest isPlain isBlank =>
    obtain ⟨index', line', column', _, further, read⟩ := plain_line isPlain (.colon isBlank) nested deep index line
    have isColon := startsToken_cons (c := ':') ⟨rfl, rfl⟩ (by decide) column' rest
    have deeper := further rfl
    have noToken : (BlockPlace.lexer ⟨tokens ++ [.scalar (String.ofList text) .plain], indent, indents, false, column',
        ':' :: rest⟩ index' line').token = none :=
      Lexer.token_entry rfl (inside.trans_le deeper) rfl rfl rfl (.inr (.inr rfl)) isBlank
    rw [run_plain isPlain nested deep, read, Option.bind_some, run_token isColon (by omega), noToken]
    rfl

def isQuotable (text : List Char) : Bool :=
  text.all fun c => !isBlank c && !isBreak c && c != '"' && c != '\\'

theorem quotedWord_quotable {text : List Char} (quotable : isQuotable text = true) (done rest : List Char)
    {fuel : Nat} (enough : text.length < fuel) (index line column : Nat) :
    quotedWord false fuel done ⟨text ++ '"' :: rest, index, line, column⟩ =
      some (text.reverse ++ done, .quote, ⟨'"' :: rest, index + text.length, line, column + text.length⟩) := by
  induction text generalizing fuel done index column with
  | nil =>
    obtain ⟨fuel, rfl⟩ := Nat.exists_eq_add_of_lt enough
    rfl
  | cons c text ih =>
    obtain ⟨fuel, rfl⟩ := Nat.exists_eq_add_of_lt (Nat.zero_lt_of_lt enough)
    rw [isQuotable, List.all_cons, Bool.and_eq_true] at quotable
    obtain ⟨isPlain, quotable⟩ := quotable
    simp only [Bool.and_eq_true, Bool.not_eq_true', bne_iff_ne] at isPlain
    obtain ⟨⟨⟨notBlank, notBreak⟩, noQuote⟩, noEscape⟩ := isPlain
    have next : (⟨c :: (text ++ '"' :: rest), index, line, column⟩ : Cursor).next =
      ⟨text ++ '"' :: rest, index + 1, line, column + 1⟩ := rfl
    rw [Nat.zero_add, quotedWord]
    simp only [List.cons_append, notBlank, notBreak, beq_eq_false_iff_ne.mpr noQuote,
      beq_eq_false_iff_ne.mpr noEscape, Bool.or_false, Bool.false_eq_true, if_false, next]
    rw [ih quotable _ (by simpa using enough), List.reverse_cons, List.append_assoc, List.length_cons]
    simp only [List.singleton_append, Nat.add_assoc, Nat.add_comm 1]

theorem lexes_quoted {text : List Char} (quotable : isQuotable text = true) (nested : 0 ≤ indent)
    (deep : indent < column) (rest : List Char) :
    Lexes 1 ⟨tokens, indent, indents, false, column, '"' :: (text ++ '"' :: rest)⟩
      ⟨tokens ++ [.scalar (String.ofList text) .doubleQuoted], indent, indents, false,
        column + 1 + text.length + 1, rest⟩ := by
  have inside : 0 < column := by omega
  have isToken := startsToken_cons (c := '"') ⟨rfl, rfl⟩ (by decide) column (text ++ '"' :: rest)
  intro index line
  refine ⟨index + 1 + text.length + 1, line, fun fuel => ?_⟩
  have outside : (⟨text ++ '"' :: rest, index + 1, line, column + 1⟩ : Cursor).atMarker = false :=
    Bool.and_eq_false_imp.mpr fun atMargin => absurd (eq_of_beq atMargin) (Nat.succ_ne_zero column)
  have isThere : (text ++ '"' :: rest).isEmpty = false := by simp
  have enough : text.length < (text ++ '"' :: rest).length + 1 := by
    rw [List.length_append]
    omega
  have word := quotedWord_quotable quotable [] rest enough (index + 1) line (column + 1)
  rw [List.append_nil] at word
  have unfolded := quotedFrom.eq_def false ((text ++ '"' :: rest).length + 1 + 1) []
    ⟨text ++ '"' :: rest, index + 1, line, column + 1⟩
  simp only [outside, isThere, word] at unfolded
  have read : quotedFrom false ((text ++ '"' :: rest).length + 1 + 1) []
      ⟨text ++ '"' :: rest, index + 1, line, column + 1⟩ =
        some (text.reverse, ⟨rest, index + 1 + text.length + 1, line, column + 1 + text.length + 1⟩) := unfolded
  have quoted : (BlockPlace.lexer ⟨tokens, indent, indents, false, column, '"' :: (text ++ '"' :: rest)⟩ index
      line).quoted false = some (BlockPlace.lexer ⟨tokens ++ [.scalar (String.ofList text) .doubleQuoted], indent,
        indents, false, column + 1 + text.length + 1, rest⟩ (index + 1 + text.length + 1) line) := by
    have notes : (BlockPlace.lexer ⟨tokens, indent, indents, false, column, '"' :: (text ++ '"' :: rest)⟩ index
      line).noteKey = some (BlockPlace.lexer ⟨tokens, indent, indents, false, column, '"' :: (text ++ '"' :: rest)⟩
        index line) := rfl
    rw [Lexer.quoted_eq notes read, List.reverse_reverse]
    simp [BlockPlace.lexer, Lexer.emit, Lexer.moveTo, Lexer.allowKey]
  rw [run_token isToken (Int.le_of_lt deep), Lexer.token_quote rfl, quoted]
  rfl

end Scalars

section Keys

variable {tokens : List Token} {indent : Int} {indents : List Int} {column : Nat}

def isKeyWord (key : List Char) : Bool :=
  key.head?.any Char.isAlpha && key.all isNameChar && key.length ≤ 1024

theorem isText_of_isNameChar {c : Char} (isName : isNameChar c = true) :
    isBlank c = false ∧ isBreak c = false ∧ c ≠ ':' := by
  refine ⟨Bool.eq_false_iff.mpr fun blank => ?_, Bool.eq_false_iff.mpr fun isBreak => ?_, ?_⟩
  · simp only [isBlank, Bool.or_eq_true, beq_iff_eq] at blank
    rcases blank with rfl | rfl <;> revert isName <;> decide
  · simp only [Yaml.isBreak, Bool.or_eq_true, beq_iff_eq] at isBreak
    rcases isBreak with (((rfl | rfl) | rfl) | rfl) | rfl <;> revert isName <;> decide
  · rintro rfl
    revert isName
    decide

theorem startsPlain_of_isAlpha {c : Char} (isAlpha : c.isAlpha = true) (rest : List Char) :
    Lexer.startsPlain false (c :: rest) = true := by
  have isName : isNameChar c = true := by simp [isNameChar, Char.isAlphanum, isAlpha]
  obtain ⟨notBlank, notBreak, _⟩ := isText_of_isNameChar isName
  have noIndicator : ['-', '?', ':', ',', '[', ']', '\x7b', '\x7d', '#', '&', '*', '!', '|', '>', '\'', '"', '%', '@',
      '\x60'].contains c = false := by
    refine Bool.eq_false_iff.mpr fun among => ?_
    have none : ['-', '?', ':', ',', '[', ']', '\x7b', '\x7d', '#', '&', '*', '!', '|', '>', '\'', '"', '%', '@',
      '\x60'].all (fun c => !c.isAlpha) = true := by decide
    have other := List.all_eq_true.mp none c (List.contains_iff_mem.mp among)
    rw [isAlpha] at other
    cases other
  simp only [Lexer.startsPlain, notBlank, notBreak, noIndicator]
  rfl

theorem start_of_isKeyWord {key : List Char} (isKey : isKeyWord key = true) :
    ∃ c rest, key = c :: rest ∧ c.isAlpha = true ∧ (∀ d ∈ key, isNameChar d = true) ∧ key.length ≤ 1024 := by
  simp only [isKeyWord, Bool.and_eq_true, decide_eq_true_eq, List.all_eq_true] at isKey
  obtain ⟨⟨isAlpha, isName⟩, short⟩ := isKey
  cases key with
  | nil => cases isAlpha
  | cons c rest => exact ⟨c, rest, rfl, isAlpha, isName, short⟩

theorem plainFrom_key {key after : List Char} (isKey : isKeyWord key = true) (isBlank : startsBlank after = true)
    (outer index line : Nat) :
    plainFrom false outer ((key ++ ':' :: after).length + 1) [] Gap.none ⟨key ++ ':' :: after, index, line, column⟩ =
      some (key.reverse, false, ⟨':' :: after, index + key.length, line, column + key.length⟩) := by
  obtain ⟨c, rest, isKey, isAlpha, isName, _⟩ := start_of_isKeyWord isKey
  have isWord : IsWord key (':' :: after) := by
    refine ⟨fun d member => ?_, ?_⟩
    · obtain ⟨notBlank, notBreak, _⟩ := isText_of_isNameChar (isName d member)
      exact ⟨notBlank, notBreak⟩
    · rintro front back rfl
      exact absurd rfl (isText_of_isNameChar (isName ':' (List.mem_append_right _ (.head _)))).2.2
  have starts : StartsWord key := by
    refine ⟨c, rest, isKey, (isText_of_isNameChar (isName c (isKey ▸ .head _))).1, ?_⟩
    rintro rfl
    cases isAlpha
  have outside : (⟨key ++ ':' :: after, index, line, column⟩ : Cursor).atMarker = false := by
    refine Lexer.atMarker_of_head (by rw [isKey]; rfl) ⟨?_, ?_⟩ <;> rintro rfl <;> cases isAlpha
  rw [plainFrom_colon isWord starts isBlank outside]
  simp [Gap.none, Gap.text]

def BlockPlace.atColon (place : BlockPlace) (key after : List Char) (index line : Nat) : Lexer :=
  ⟨⟨':' :: after, index + key.length, line, place.column + key.length⟩,
    (place.tokens ++ [Token.scalar (String.ofList key) .plain]).toArray, place.indent, place.indents, 0, false,
    [some ⟨place.indent == place.column, place.tokens.length, index, line, place.column⟩]⟩

theorem plain_key {key after : List Char} (isKey : isKeyWord key = true) (isBlank : startsBlank after = true)
    (index line : Nat) :
    (BlockPlace.lexer ⟨tokens, indent, indents, true, column, key ++ ':' :: after⟩ index line).plain =
      some (BlockPlace.atColon ⟨tokens, indent, indents, true, column, key ++ ':' :: after⟩ key after index line) := by
  have notes : (BlockPlace.lexer ⟨tokens, indent, indents, true, column, key ++ ':' :: after⟩ index line).noteKey =
      some ⟨⟨key ++ ':' :: after, index, line, column⟩, tokens.toArray, indent, indents, 0, true,
        [some ⟨indent == column, tokens.length, index, line, column⟩]⟩ := rfl
  rw [Lexer.plain_eq notes (plainFrom_key isKey isBlank _ index line), List.reverse_reverse]
  simp [BlockPlace.atColon, Lexer.emit, Lexer.moveTo, Lexer.allowKey]

theorem dropStaleKeys_atColon (place : BlockPlace) {key : List Char} (short : key.length ≤ 1024) (after : List Char)
    (index line : Nat) :
    (place.atColon key after index line).dropStaleKeys = some (place.atColon key after index line) := by
  have near : ¬ index + 1024 < index + key.length := by omega
  simp [Lexer.dropStaleKeys, BlockPlace.atColon, Lexer.withKeys, near]

/-- The tokens of a key at a column, the start of a block in front of them if it is deeper. -/
def keyTokens (indent : Int) (column : Nat) (key : List Char) : List Token :=
  (if indent < column then [.blockMappingStart] else []) ++ [.key, .scalar (String.ofList key) .plain, .value]

def blocksAround (indent : Int) (indents : List Int) (column : Nat) : List Int :=
  if indent < column then indent :: indents else indents

theorem value_atColon (key after : List Char) (deep : indent ≤ column) (index line : Nat) :
    (BlockPlace.atColon ⟨tokens, indent, indents, true, column, key ++ ':' :: after⟩ key after index line).value =
      some (BlockPlace.lexer
        ⟨tokens ++ keyTokens indent column key, column, blocksAround indent indents column, false,
          column + key.length + 1, after⟩
        (index + key.length + 1) line) := by
  by_cases opens : indent < column
  · have notOpen : ¬ (column : Int) ≤ indent := by omega
    simp [Lexer.value, BlockPlace.atColon, Lexer.putAt, Lexer.openBlock, Lexer.inFlow, Lexer.withKeys, Lexer.allowKey,
      Lexer.take, Lexer.moveTo, Lexer.emit, Cursor.skip, BlockPlace.lexer, keyTokens, blocksAround, opens, notOpen]
  · obtain rfl : indent = column := by omega
    simp [Lexer.value, BlockPlace.atColon, Lexer.putAt, Lexer.openBlock, Lexer.inFlow, Lexer.withKeys, Lexer.allowKey,
      Lexer.take, Lexer.moveTo, Lexer.emit, Cursor.skip, BlockPlace.lexer, keyTokens, blocksAround]

theorem run_atColon {key after : List Char} (short : key.length ≤ 1024) (isBlank : startsBlank after = true)
    (deep : indent ≤ column) (index line fuel : Nat) :
    (BlockPlace.atColon ⟨tokens, indent, indents, true, column, key ++ ':' :: after⟩ key after index line).run
        (fuel + 1) =
      (BlockPlace.lexer
        ⟨tokens ++ keyTokens indent column key, column, blocksAround indent indents column, false,
          column + key.length + 1, after⟩
        (index + key.length + 1) line).run fuel := by
  have noBlanks := areSkipped_replicate false 0
  have isColon := startsToken_cons (c := ':') ⟨rfl, rfl⟩ (by decide) (column + key.length) after
  refine (Lexer.run_step ?_ (dropStaleKeys_atColon _ short after index line) ?_ (List.cons_ne_nil _ _) fuel).trans ?_
  · exact skipLayout_token noBlanks isColon _
  · show indent ≤ (column + key.length : Nat)
    omega
  · rw [Lexer.token_colon rfl isBlank, value_atColon key after deep, Option.bind_some]

/-- A key and its colon are three tokens, in front of them the start of a block if there is none at the key's
column. -/
theorem lexes_key {key after : List Char} (isKey : isKeyWord key = true) (isBlank : startsBlank after = true)
    (deep : indent ≤ column) :
    Lexes 2 ⟨tokens, indent, indents, true, column, key ++ ':' :: after⟩
      ⟨tokens ++ keyTokens indent column key, column, blocksAround indent indents column, false,
        column + key.length + 1, after⟩ := by
  obtain ⟨c, rest, isCons, isAlpha, _, short⟩ := start_of_isKeyWord isKey
  have starts := startsPlain_of_isAlpha isAlpha (rest ++ ':' :: after)
  have isToken : StartsToken column (key ++ ':' :: after) := by
    rw [isCons]
    refine startsToken_of_startsPlain starts (.inr ?_)
    rintro rfl
    cases isAlpha
  have noEntry (isEntry : c = '-' ∨ c = '?' ∨ c = ':') : startsBlank (rest ++ ':' :: after) = false := by
    rcases isEntry with rfl | rfl | rfl <;> cases isAlpha
  intro index line
  refine ⟨index + key.length + 1, line, fun fuel => ?_⟩
  rw [run_token isToken deep, Lexer.token_plain (by rw [isCons]; rfl) rfl starts noEntry (.inr isAlpha),
    plain_key isKey isBlank, Option.bind_some, run_atColon short isBlank deep]

theorem lexes_bareKey {key layout : List Char} (isKey : isKeyWord key = true) (isLayout : IsLayout false layout)
    (apart : startsBlank (layout ++ ['\n']) = true) (deep : indent ≤ column) (next : List Char) :
    Lexes 2 ⟨tokens, indent, indents, true, column, key ++ ':' :: (layout ++ '\n' :: next)⟩
      ⟨tokens ++ keyTokens indent column key, column, blocksAround indent indents column, true, 0, next⟩ := by
  have isBlank : startsBlank (layout ++ '\n' :: next) = true := by
    cases layout with
    | nil => rfl
    | cons c layout => exact apart
  exact (lexes_key isKey isBlank deep).trans (lexes_layout isLayout next)

theorem lexes_pair {key blanks value tail next : List Char} (isKey : isKeyWord key = true)
    (skipped : AreSkipped false blanks) (apart : blanks ≠ []) (isPlain : isPlainLine value = true)
    (ends : EndsPlain tail next) (deep : indent ≤ column) :
    Lexes 3 ⟨tokens, indent, indents, true, column, key ++ ':' :: (blanks ++ (value ++ tail))⟩
      ⟨tokens ++ (keyTokens indent column key ++ [.scalar (String.ofList value) .plain]), column,
        blocksAround indent indents column, true, 0, next⟩ := by
  obtain ⟨c, rest, isCons, starts, _⟩ := start_of_isPlainLine isPlain tail
  have isToken : StartsToken (column + key.length + 1 + blanks.length) (value ++ tail) := by
    rw [isCons]
    exact startsToken_of_startsPlain starts (.inl (by omega))
  have isBlank : startsBlank (blanks ++ (value ++ tail)) = true := by
    obtain ⟨d, others, rfl⟩ := List.exists_cons_of_ne_nil apart
    refine startsBlank_cons (.inl ?_) _
    rcases skipped d (.head _) with rfl | ⟨_, rfl⟩ <;> rfl
  have readsKey : Lexes 2 ⟨tokens, indent, indents, true, column, key ++ ':' :: (blanks ++ (value ++ tail))⟩ _ :=
    lexes_key isKey isBlank deep
  have reads := (readsKey.trans (lexes_blanks skipped isToken)).trans
    (lexes_plain isPlain ends (Int.natCast_nonneg _) (by omega))
  rwa [List.append_assoc] at reads

theorem lexes_quotedPair {key value : List Char} (isKey : isKeyWord key = true) (quotable : isQuotable value = true)
    (deep : indent ≤ column) (next : List Char) :
    Lexes 3 ⟨tokens, indent, indents, true, column, key ++ ':' :: ' ' :: '"' :: (value ++ '"' :: '\n' :: next)⟩
      ⟨tokens ++ (keyTokens indent column key ++ [.scalar (String.ofList value) .doubleQuoted]), column,
        blocksAround indent indents column, true, 0, next⟩ := by
  have skipped : AreSkipped false [' '] := areSkipped_replicate false 1
  have noLayout : IsLayout false [] := .blank (areSkipped_replicate false 0)
  have isToken := startsToken_cons (c := '"') ⟨rfl, rfl⟩ (by decide) (column + key.length + 1 + 1)
    (value ++ '"' :: '\n' :: next)
  have readsKey : Lexes 2 ⟨tokens, indent, indents, true, column,
      key ++ ':' :: ([' '] ++ '"' :: (value ++ '"' :: '\n' :: next))⟩ _ := lexes_key isKey rfl deep
  have reads := ((readsKey.trans (lexes_blanks skipped isToken)).trans
    (lexes_quoted quotable (Int.natCast_nonneg _) (by omega) _)).trans (lexes_layout noLayout next)
  rwa [List.append_assoc] at reads

end Keys

section Ends

variable {tokens : List Token} {indent : Int} {indents : List Int} {keyAllowed : Bool} {column : Nat}

inductive IsNested : Int → List Int → Prop
  | outside : IsNested (-1) []
  | block {inner outer : Int} {indents : List Int} (deeper : outer < inner) (nested : IsNested outer indents) :
      IsNested inner (outer :: indents)

theorem IsNested.margin_le (nested : IsNested indent indents) : -1 ≤ indent := by
  induction nested with
  | outside => exact Int.le_refl _
  | block deeper _ ih => omega

theorem close_margin (nested : IsNested indent indents) (index line : Nat) :
    Lexer.closeBlocks.close (-1) indents
        (BlockPlace.lexer ⟨tokens, indent, indents, keyAllowed, column, []⟩ index line) =
      BlockPlace.lexer ⟨tokens ++ List.replicate indents.length .blockEnd, -1, [], keyAllowed, column, []⟩ index
        line := by
  induction nested generalizing tokens with
  | outside => simp [Lexer.closeBlocks.close]
  | @block inner outer indents deeper nested ih =>
    have closes : -1 < inner := by
      have := nested.margin_le
      omega
    have emits : { (BlockPlace.lexer ⟨tokens, inner, outer :: indents, keyAllowed, column, []⟩ index line).emit
          .blockEnd with indent := outer, indents := indents } =
        BlockPlace.lexer ⟨tokens ++ [.blockEnd], outer, indents, keyAllowed, column, []⟩ index line := by
      simp [BlockPlace.lexer, Lexer.emit]
    refine (if_pos closes).trans ?_
    rw [emits, ih, List.append_assoc]
    rfl

theorem close_close {column : Int} (above : -1 ≤ column) (lexer : Lexer) :
    Lexer.closeBlocks.close (-1) (Lexer.closeBlocks.close column lexer.indents lexer).indents
        (Lexer.closeBlocks.close column lexer.indents lexer) =
      Lexer.closeBlocks.close (-1) lexer.indents lexer := by
  generalize isIndents : lexer.indents = indents
  induction indents generalizing lexer with
  | nil => rw [Lexer.closeBlocks.close, isIndents]
  | cons outer rest ih =>
    rw [Lexer.closeBlocks.close]
    by_cases closes : column < lexer.indent
    · rw [if_pos closes, ih _ rfl, Lexer.closeBlocks.close, if_pos (by omega)]
    · rw [if_neg closes, isIndents]

theorem close_kept (column : Int) (indents : List Int) (lexer : Lexer) :
    (Lexer.closeBlocks.close column indents lexer).cursor = lexer.cursor ∧
      (Lexer.closeBlocks.close column indents lexer).flow = lexer.flow := by
  induction indents generalizing lexer with
  | nil => exact ⟨rfl, rfl⟩
  | cons outer rest ih =>
    rw [Lexer.closeBlocks.close]
    split
    · exact ih _
    · exact ⟨rfl, rfl⟩

theorem run_end (nested : IsNested indent indents) (index line fuel : Nat) :
    (BlockPlace.lexer ⟨tokens, indent, indents, keyAllowed, column, []⟩ index line).run (fuel + 1) =
      some (tokens ++ List.replicate indents.length .blockEnd ++ [.streamEnd]) := by
  generalize isLexer : BlockPlace.lexer ⟨tokens, indent, indents, keyAllowed, column, []⟩ index line = lexer
  have stays : (lexer.skipLayout (lexer.cursor.rest.length + 1)).dropStaleKeys = some lexer := by
    rw [← isLexer]
    rfl
  have closes : lexer.closeBlocks lexer.cursor.column =
      Lexer.closeBlocks.close lexer.cursor.column lexer.indents lexer := by
    rw [← isLexer]
    rfl
  obtain ⟨sameCursor, sameFlow⟩ := close_kept lexer.cursor.column lexer.indents lexer
  have margin : (Lexer.closeBlocks.close lexer.cursor.column lexer.indents lexer).closeBlocks (-1) =
      BlockPlace.lexer ⟨tokens ++ List.replicate indents.length .blockEnd, -1, [], keyAllowed, column, []⟩ index
        line := by
    have outside : (Lexer.closeBlocks.close lexer.cursor.column lexer.indents lexer).inFlow = false := by
      rw [Lexer.inFlow, sameFlow, ← isLexer]
      rfl
    rw [Lexer.closeBlocks, outside, if_neg Bool.false_ne_true, close_close (by omega), ← isLexer]
    exact close_margin nested index line
  have atEnd : lexer.cursor.rest.isEmpty = true := by
    rw [← isLexer]
    rfl
  rw [Lexer.run, stays]
  dsimp only
  rw [closes, sameCursor, atEnd, if_pos rfl, Lexer.toMargin, margin]
  simp [Lexer.dropKey, BlockPlace.lexer, Lexer.allowKey, Lexer.emit]

/-- The tokens of a text whose run comes to its end. -/
theorem tokens?_of_lexes {text : String} {steps : Nat} (allowed : text.toList.all isAllowed = true)
    (few : steps ≤ text.toList.length)
    (lexes : Lexes steps ⟨[], -1, [], true, 0, text.toList⟩ ⟨tokens, indent, indents, keyAllowed, column, []⟩)
    (nested : IsNested indent indents) :
    tokens? text = some (tokens ++ List.replicate indents.length .blockEnd ++ [.streamEnd]) := by
  obtain ⟨index, line, reads⟩ := lexes 0 0
  obtain ⟨fuel, isFuel⟩ : ∃ fuel, text.toList.length + 1 = fuel + 1 + steps :=
    ⟨text.toList.length - steps, by omega⟩
  rw [tokens?, if_pos allowed, isFuel]
  exact (reads (fuel + 1)).trans (run_end nested index line fuel)

/-- A text whose run comes to a place from which none goes on has no tokens. -/
theorem tokens?_eq_none_of_lexes {text : String} {steps : Nat} {place : BlockPlace}
    (few : steps < text.toList.length) (lexes : Lexes steps ⟨[], -1, [], true, 0, text.toList⟩ place)
    (fails : ∀ index line fuel, (place.lexer index line).run (fuel + 2) = none) : tokens? text = none := by
  obtain ⟨index, line, reads⟩ := lexes 0 0
  obtain ⟨fuel, isFuel⟩ : ∃ fuel, text.toList.length + 1 = fuel + 2 + steps :=
    ⟨text.toList.length - 1 - steps, by omega⟩
  rw [tokens?]
  split
  · rw [isFuel]
    exact (reads (fuel + 2)).trans (fails index line fuel)
  · rfl

end Ends

end Yaml
end WireContract

import Mathlib.Data.List.TakeWhile
import WireContract.Project.Load
import WireContract.Project.Sample
import WireContract.Proofs.BlockLexing

namespace WireContract
namespace Yaml

def endsText (line : List Char) : Bool :=
  match line.dropWhile isBlank with
  | [] => true
  | c :: _ => c == '#'

def beforeComment : List Char → List Char
  | [] => []
  | c :: rest => if isBlank c && endsText rest then [] else c :: beforeComment rest

def lineText (line : List Char) : List Char :=
  if endsText line then [] else beforeComment (line.dropWhile isBlank)

theorem endsText_cases {line : List Char} (ends : endsText line = true) :
    (∀ c ∈ line, isBlank c = true) ∨
      ∃ blanks rest, line = blanks ++ '#' :: rest ∧ ∀ c ∈ blanks, isBlank c = true := by
  have parts : line.takeWhile isBlank ++ line.dropWhile isBlank = line := List.takeWhile_append_dropWhile
  have areBlank : ∀ c ∈ line.takeWhile isBlank, isBlank c = true := fun c member => List.mem_takeWhile_imp member
  unfold endsText at ends
  split at ends
  · next isEmpty =>
    rw [isEmpty, List.append_nil] at parts
    rw [parts] at areBlank
    exact .inl areBlank
  · next c rest isRest =>
    obtain rfl := eq_of_beq ends
    rw [isRest] at parts
    exact .inr ⟨_, rest, parts.symm, areBlank⟩

theorem areSkipped_of_blank {blanks : List Char} (areBlank : ∀ c ∈ blanks, isBlank c = true) :
    AreSkipped false blanks := by
  intro c member
  have blank := areBlank c member
  simp only [isBlank, Bool.or_eq_true, beq_iff_eq] at blank
  exact blank.imp id fun isTab => ⟨rfl, isTab⟩

theorem isLayout_of_endsText {line : List Char} (ends : endsText line = true)
    (onLine : ∀ c ∈ line, isBreak c = false) : IsLayout false line := by
  rcases endsText_cases ends with areBlank | ⟨blanks, rest, rfl, areBlank⟩
  · exact .blank (areSkipped_of_blank areBlank)
  · exact .comment (areSkipped_of_blank areBlank) fun c member => onLine c (List.mem_append_right _ (.tail _ member))

theorem endsPlain_behind {text next : List Char} (onLine : ∀ c ∈ text, isBreak c = false) (isText : IsText next) :
    ∃ tail, text = beforeComment text ++ tail ∧ EndsPlain (tail ++ '\n' :: next) next := by
  induction text with
  | nil => exact ⟨[], rfl, .line (fun c member => absurd member List.not_mem_nil) 0 isText⟩
  | cons c rest ih =>
    rw [beforeComment]
    split
    · next cut =>
      obtain ⟨isBlank, ends⟩ := Bool.and_eq_true_iff.mp cut
      refine ⟨c :: rest, rfl, ?_⟩
      rcases endsText_cases ends with areBlank | ⟨blanks, comment, rfl, areBlank⟩
      · exact .line (List.forall_mem_cons.mpr ⟨isBlank, areBlank⟩) 0 isText
      · have onRest : ∀ d ∈ comment, isBreak d = false := fun d member =>
          onLine d (.tail _ (List.mem_append_right _ (.tail _ member)))
        have ends : EndsPlain (c :: blanks ++ '#' :: (comment ++ '\n' :: next)) next :=
          .comment (List.forall_mem_cons.mpr ⟨isBlank, areBlank⟩) (List.cons_ne_nil c blanks) onRest next
        simpa using ends
    · obtain ⟨tail, parts, ends⟩ := ih fun d member => onLine d (.tail _ member)
      exact ⟨tail, congrArg (c :: ·) parts, ends⟩

theorem endsText_of_lineText {line : List Char} (nothing : lineText line = []) : endsText line = true := by
  by_contra goesOn
  rw [lineText, if_neg goesOn] at nothing
  cases isRest : line.dropWhile isBlank with
  | nil => exact goesOn (by rw [endsText, isRest])
  | cons c rest =>
    have notBlank := List.head_dropWhile_not (p := isBlank) (l := line) (by simp [isRest])
    simp only [isRest, List.head_cons] at notBlank
    rw [isRest, beforeComment, notBlank] at nothing
    cases nothing

theorem lineText_parts {line next : List Char} (isThere : lineText line ≠ [])
    (onLine : ∀ c ∈ line, isBreak c = false) (isText : IsText next) :
    ∃ blanks tail, line = blanks ++ (lineText line ++ tail) ∧ AreSkipped false blanks ∧
      EndsPlain (tail ++ '\n' :: next) next := by
  have goesOn : ¬ endsText line = true := fun ends => isThere (if_pos ends)
  have onRest : ∀ c ∈ line.dropWhile isBlank, isBreak c = false :=
    fun c member => onLine c ((List.dropWhile_suffix isBlank).subset member)
  obtain ⟨tail, parts, ends⟩ := endsPlain_behind onRest isText
  refine ⟨line.takeWhile isBlank, tail, ?_, ?_, ends⟩
  · rw [lineText, if_neg goesOn, ← parts, List.takeWhile_append_dropWhile]
  · exact areSkipped_of_blank fun c member => List.mem_takeWhile_imp member

theorem endsText_cons_of_blank {c : Char} (blank : isBlank c = true) (rest : List Char) :
    endsText (c :: rest) = endsText rest := by
  rw [endsText, List.dropWhile_cons_of_pos blank]
  rfl

theorem endsText_cons_of_text {c : Char} (notBlank : isBlank c = false) (rest : List Char) :
    endsText (c :: rest) = (c == '#') := by
  rw [endsText, List.dropWhile_cons_of_neg (by simp [notBlank])]

theorem not_endsText_of_continuesPlain {c : Char} {rest : List Char} (blank : isBlank c = true)
    (plain : continuesPlain (c :: rest) = true) : endsText rest = false := by
  induction rest generalizing c with
  | nil => exact absurd rfl ((continuesPlain_cons plain).2.2 blank).1
  | cons d rest ih =>
    cases isBlank : isBlank d with
    | true =>
      rw [endsText_cons_of_blank isBlank]
      exact ih isBlank (continuesPlain_of_cons plain)
    | false =>
      rw [endsText_cons_of_text isBlank]
      refine beq_eq_false_iff_ne.mpr fun isComment => ((continuesPlain_cons plain).2.2 blank).2 ?_
      exact congrArg some isComment

theorem beforeComment_of_continuesPlain {text : List Char} (plain : continuesPlain text = true) :
    beforeComment text = text := by
  induction text with
  | nil => rfl
  | cons c rest ih =>
    rw [beforeComment, ih (continuesPlain_of_cons plain)]
    refine if_neg fun cut => ?_
    obtain ⟨blank, ends⟩ := Bool.and_eq_true_iff.mp cut
    rw [not_endsText_of_continuesPlain blank plain] at ends
    cases ends

theorem lineText_of_isPlainLine {text : List Char} (isPlain : isPlainLine text = true) : lineText text = text := by
  obtain ⟨c, rest, rfl, starts, _⟩ := start_of_isPlainLine isPlain []
  have isToken : StartsToken 1 _ := startsToken_of_startsPlain starts (.inl Nat.one_pos)
  have notBlank : isBlank c = false := (isToken.isText c rfl).1
  have goesOn : endsText (c :: rest) = false := by
    rw [endsText_cons_of_text notBlank]
    exact beq_eq_false_iff_ne.mpr fun isComment => isToken.noComment (congrArg some isComment)
  simp only [isPlainLine, Bool.and_eq_true] at isPlain
  rw [lineText, goesOn, List.dropWhile_cons_of_neg (by simp [notBlank])]
  exact beforeComment_of_continuesPlain isPlain.2

end Yaml

namespace Sample

theorem toList_lines (texts : List String) :
    (lines texts).toList = texts.flatMap fun text => text.toList ++ ['\n'] := by
  rw [lines]
  induction texts with
  | nil => rfl
  | cons text rest ih => simp [ih]

def settings : List Char :=
  "version".toList ++ ':' :: ' ' :: '"' :: ("0.1.0".toList ++ '"' :: '\n' ::
  ([] ++ '\n' ::
  ("# Interface definition document and compiled output".toList ++ '\n' ::
  ("document".toList ++ ':' :: ([' '] ++ ("swagger.yaml".toList ++ ([] ++ '\n' :: ([] ++
  ("output".toList ++ ':' :: ([' '] ++ (".apiguard/compiled.json".toList ++ ([] ++ '\n' :: (['\n'] ++
  ("auth".toList ++ ':' :: ([] ++ '\n' ::
  ([' ', ' '] ++ ("token_header".toList ++ ':' :: ([' '] ++ ("x-auth-token".toList ++ ([] ++ '\n' :: (['\n'] ++
  ("# Compile only matching operations (\"*\" suffix matches a URL prefix)".toList ++ '\n' ::
  ("# filter:".toList ++ '\n' ::
  ("#   interface: /api/pets/*".toList ++ '\n' ::
  ("#   method: get".toList ++ '\n' :: [])))))))))))))))))))))))))

theorem toList_project (name : String) :
    (project name).toList =
      "# API Guard Project Configuration".toList ++ '\n' ::
        ("name".toList ++ ':' :: (' ' :: name.toList ++ '\n' :: settings)) := by
  unfold settings
  simp [project, toList_lines]

open Yaml

def settingTokens : List Token :=
  [.key, .scalar "version" .plain, .value, .scalar "0.1.0" .doubleQuoted,
    .key, .scalar "document" .plain, .value, .scalar "swagger.yaml" .plain,
    .key, .scalar "output" .plain, .value, .scalar ".apiguard/compiled.json" .plain,
    .key, .scalar "auth" .plain, .value, .blockMappingStart,
      .key, .scalar "token_header" .plain, .value, .scalar "x-auth-token" .plain]

theorem isLayout_comment {keyAllowed : Bool} {rest : List Char} (onLine : rest.all (!isBreak ·) = true) :
    IsLayout keyAllowed ('#' :: rest) := by
  refine .comment (areSkipped_replicate keyAllowed 0) fun c member => ?_
  simpa using List.all_eq_true.mp onLine c member

theorem lexes_settings (tokens : List Token) :
    Lexes 14 ⟨tokens, 0, [-1], true, 0, settings⟩ ⟨tokens ++ settingTokens, 2, [0, -1], true, 0, []⟩ := by
  have blank (keyAllowed : Bool) : IsLayout keyAllowed [] := .blank (areSkipped_replicate keyAllowed 0)
  have spaced : AreSkipped false [' '] := areSkipped_replicate false 1
  have isThere : [' '] ≠ [] := List.cons_ne_nil _ _
  have ends (count : Nat) {next : List Char} (isText : IsText next) :
      EndsPlain ([] ++ '\n' :: (List.replicate count '\n' ++ next)) next :=
    .line (fun c member => absurd member List.not_mem_nil) count isText
  have starts {c : Char} (isText : isBlank c = false ∧ isBreak c = false) (rest : List Char) : IsText (c :: rest) := by
    rintro _ ⟨⟩
    exact isText
  have version : Lexes 3 ⟨tokens, 0, [-1], true, 0, settings⟩ _ :=
    lexes_quotedPair (by decide) (by decide) (by decide) _
  have toDocument := (version.trans (lexes_layout (blank true) _)).trans
    (lexes_layout (isLayout_comment (by decide)) _)
  have toOutput := toDocument.trans
    (lexes_pair (by decide) spaced isThere (by decide) (ends 0 (starts ⟨rfl, rfl⟩ _)) (by decide))
  have toAuth := toOutput.trans
    (lexes_pair (by decide) spaced isThere (by decide) (ends 1 (starts ⟨rfl, rfl⟩ _)) (by decide))
  have toHeader := (toAuth.trans (lexes_bareKey (by decide) (blank false) (by decide) (by decide) _)).trans
    (lexes_blanks (areSkipped_replicate true 2) (startsToken_cons ⟨rfl, rfl⟩ (by decide) _ _))
  have toComments := toHeader.trans
    (lexes_pair (by decide) spaced isThere (by decide) (ends 1 (starts ⟨rfl, rfl⟩ _)) (by decide))
  have toEnd := (((toComments.trans (lexes_layout (isLayout_comment (by decide)) _)).trans
    (lexes_layout (isLayout_comment (by decide)) _)).trans (lexes_layout (isLayout_comment (by decide)) _)).trans
    (lexes_layout (isLayout_comment (by decide)) _)
  simpa [keyTokens, blocksAround, settingTokens] using toEnd

/-- Whether a name can stand on the line of its key: it has no line break, and what the line says is nothing or
a plain scalar. -/
def isLegible (name : List Char) : Bool :=
  name.all (fun c => isAllowed c && !isBreak c) && (lineText name == [] || isPlainLine (lineText name))

theorem isLegible_of_isPlainLine {name : List Char} (isPlain : isPlainLine name = true) : isLegible name = true := by
  have isText := lineText_of_isPlainLine isPlain
  have parts := isPlain
  simp only [isPlainLine, Bool.and_eq_true, List.all_eq_true] at parts
  simp only [isLegible, isText, isPlain, Bool.or_true, Bool.and_true, List.all_eq_true, Bool.and_eq_true,
    Bool.not_eq_true']
  exact fun c member => ⟨parts.1.1.1 c member, isBreak_of_continuesPlain parts.2 c member⟩

theorem lineText_eq_self_iff {name : List Char} (legible : isLegible name = true) :
    lineText name = name ↔ name = [] ∨ isPlainLine name = true := by
  constructor
  · intro same
    simp only [isLegible, Bool.and_eq_true, same, Bool.or_eq_true, beq_iff_eq] at legible
    exact legible.2
  · rintro (rfl | isPlain)
    · rfl
    · exact lineText_of_isPlainLine isPlain

def nameTokens (name : List Char) : List Token :=
  [.blockMappingStart, .key, .scalar "name" .plain, .value] ++
    if name = [] then [] else [.scalar (String.ofList name) .plain]

theorem lexes_name {name : List Char} (legible : isLegible name = true) {next : List Char} (isText : IsText next) :
    ∃ steps ≤ 3, Lexes steps ⟨[], -1, [], true, 0, "name".toList ++ ':' :: (' ' :: name ++ '\n' :: next)⟩
      ⟨nameTokens (lineText name), 0, [-1], true, 0, next⟩ := by
  simp only [isLegible, Bool.and_eq_true, List.all_eq_true, Bool.not_eq_true', Bool.or_eq_true, beq_iff_eq] at legible
  obtain ⟨onLine, isRead⟩ := legible
  have onLine : ∀ c ∈ name, isBreak c = false := fun c member => (onLine c member).2
  by_cases nothing : lineText name = []
  · have isLayout : IsLayout false (' ' :: name) :=
      isLayout_of_endsText (endsText_of_lineText nothing) (List.forall_mem_cons.mpr ⟨rfl, onLine⟩)
    have reads : Lexes 2 ⟨[], -1, [], true, 0, "name".toList ++ ':' :: (' ' :: name ++ '\n' :: next)⟩ _ :=
      lexes_bareKey (by decide) isLayout rfl (by decide) next
    refine ⟨2, by decide, ?_⟩
    simpa [keyTokens, blocksAround, nameTokens, nothing] using reads
  · obtain ⟨blanks, tail, parts, skipped, ends⟩ := lineText_parts nothing onLine isText
    have spaced : AreSkipped false (' ' :: blanks) := List.forall_mem_cons.mpr ⟨.inl rfl, skipped⟩
    have reads : Lexes 3 ⟨[], -1, [], true, 0, "name".toList ++ ':' :: (' ' :: blanks ++ (lineText name ++
        (tail ++ '\n' :: next)))⟩ _ :=
      lexes_pair (by decide) spaced (List.cons_ne_nil _ _) (isRead.resolve_left nothing) ends (by decide)
    have isLine : ' ' :: name ++ '\n' :: next =
        ' ' :: blanks ++ (lineText name ++ (tail ++ '\n' :: next)) :=
      (congrArg (fun line => ' ' :: line ++ '\n' :: next) parts).trans (by simp)
    refine ⟨3, by decide, ?_⟩
    rw [isLine]
    simpa [keyTokens, blocksAround, nameTokens, nothing] using reads

theorem lexes_heading (text : List Char) :
    Lexes 0 ⟨[], -1, [], true, 0, "# API Guard Project Configuration".toList ++ '\n' :: text⟩
      ⟨[], -1, [], true, 0, text⟩ := lexes_layout (isLayout_comment (by decide)) text

theorem length_project (name : String) : 17 ≤ (project name).toList.length := by
  have heading : 17 ≤ "# API Guard Project Configuration".toList.length := by decide
  rw [toList_project, List.length_append]
  exact heading.trans (Nat.le_add_right _ _)

theorem tokens?_project {name : String} (legible : isLegible name.toList = true) :
    tokens? (project name) =
      some (nameTokens (lineText name.toList) ++ settingTokens ++ [.blockEnd, .blockEnd, .streamEnd]) := by
  have allowed : (project name).toList.all isAllowed = true := by
    simp only [isLegible, Bool.and_eq_true, List.all_eq_true] at legible
    have isName : name.toList.all isAllowed = true := List.all_eq_true.mpr fun c member => (legible.1 c member).1
    have others : settings.all isAllowed = true ∧ "# API Guard Project Configuration".toList.all isAllowed = true ∧
        "name".toList.all isAllowed = true := by decide +kernel
    rw [toList_project]
    simp only [List.all_append, List.all_cons, isName, others, Bool.and_true, Bool.true_and]
    decide
  have isText : IsText settings := by
    rintro _ ⟨⟩
    exact ⟨rfl, rfl⟩
  have isLong := length_project name
  have nested : IsNested 2 [0, -1] := .block (by decide) (.block (by decide) .outside)
  obtain ⟨steps, few, readsName⟩ := lexes_name legible isText
  have lexes := ((lexes_heading _).trans readsName).trans (lexes_settings _)
  rw [← toList_project] at lexes
  have reads := tokens?_of_lexes allowed (by omega) lexes nested
  rw [List.append_assoc] at reads
  exact reads

theorem tokens?_project_unreadable {name : String} {blanks text : List Char} (isName : name.toList = blanks ++ text)
    (areBlank : ∀ c ∈ blanks, isBlank c = true) (unreadable : Unreadable text) : tokens? (project name) = none := by
  have isLong := length_project name
  have spaced : AreSkipped false (' ' :: blanks) := List.forall_mem_cons.mpr ⟨.inl rfl, areSkipped_of_blank areBlank⟩
  have unreadable := unreadable.line settings
  have isToken : StartsToken (0 + "name".toList.length + 1 + (' ' :: blanks).length) (text ++ '\n' :: settings) :=
    unreadable.startsToken (by omega)
  have readsKey : Lexes 2 ⟨[], -1, [], true, 0,
      "name".toList ++ ':' :: (' ' :: blanks ++ (text ++ '\n' :: settings))⟩ _ :=
    lexes_key (by decide) rfl (by decide)
  have lexes := ((lexes_heading _).trans readsKey).trans (lexes_blanks spaced isToken)
  have isLine : ' ' :: blanks ++ (text ++ '\n' :: settings) = ' ' :: name.toList ++ '\n' :: settings := by
    rw [isName]
    simp
  rw [isLine, ← toList_project] at lexes
  exact tokens?_eq_none_of_lexes (by omega) lexes (run_unreadable unreadable (by decide) (by omega))

def tree (name : String) : Tree :=
  let plain (text : String) : Tree := .scalar ⟨none, none⟩ text .plain
  .mapping ⟨none, none⟩
    [ (plain "name", plain name), (plain "version", .scalar ⟨none, none⟩ "0.1.0" .doubleQuoted),
      (plain "document", plain "swagger.yaml"), (plain "output", plain ".apiguard/compiled.json"),
      (plain "auth", .mapping ⟨none, none⟩ [(plain "token_header", plain "x-auth-token")]) ]

theorem document?_tokens (name : List Char) :
    Tree.document? (nameTokens name ++ settingTokens ++ [.blockEnd, .blockEnd, .streamEnd]) =
      some (some (tree (String.ofList name))) := by
  by_cases nothing : name = []
  · subst nothing
    rfl
  · rw [nameTokens, if_neg nothing]
    rfl

/-- A project file with a legible name is read as a project of which nothing but the name is given, the name
being what its line says. -/
theorem ofYaml?_project {name : String} (legible : isLegible name.toList = true) :
    Project.ofYaml? (project name) = some (.named (String.ofList (lineText name.toList))) := by
  have spells : (tokens? (project name)).bind Tree.document? =
      some (some (tree (String.ofList (lineText name.toList)))) := by
    rw [tokens?_project legible, Option.bind_some, document?_tokens]
  generalize String.ofList (lineText name.toList) = text at spells ⊢
  have isText (tag : Option String) (text : String) (style : ScalarStyle) :
      (Yaml.scalarOf tag text style).text = some text := rfl
  rw [Project.ofYaml?, read?, spells]
  simp [tree, number, numberPairs, expand, expandPairs, maxDepth, isLocal, Project.decode, Source.fields?,
    Source.fieldsByName, Source.valuesOf, isText, Source.required?, Source.defaulted?, Source.text?, Project.named,
    Project.defaultVersion, Auth.decode, Auth.default, Lifecycle.defaultTokenHeader]

theorem ofYaml?_project_of_not_allowed {name : String} (notAllowed : name.toList.all isAllowed = false) :
    Project.ofYaml? (project name) = none := by
  have spoiled : (project name).toList.all isAllowed = false := by
    rw [toList_project]
    simp [List.all_append, notAllowed]
  rw [Project.ofYaml?, read?, tokens?, spoiled]
  rfl

theorem ofYaml?_project_unreadable {name : String} {blanks text : List Char}
    (isName : name.toList = blanks ++ text) (areBlank : ∀ c ∈ blanks, isBlank c = true)
    (unreadable : Unreadable text) : Project.ofYaml? (project name) = none := by
  rw [Project.ofYaml?, read?, tokens?_project_unreadable isName areBlank unreadable]
  rfl

end Sample

end WireContract

import WireContract.CommandLine.Run
import WireContract.Proofs.NumberReading

namespace WireContract
namespace Json

open Reader

namespace Reader

theorem hexValue?_hexDigit {n : Nat} (below : n < 16) : hexValue? (hexDigit n) = some n := by
  have all : ∀ n < 16, hexValue? (hexDigit n) = some n := by decide
  exact all n below

theorem escape_cases (c : Char) :
    (escape c = [c] ∧ c ≠ '"' ∧ c ≠ '\\' ∧ ¬ c.toNat < 32) ∨
      (∃ e, escape c = ['\\', e] ∧ e ≠ 'u' ∧ escaped? e = some c) ∨
        (c.toNat < 32 ∧
          escape c = ['\\', 'u', '0', '0', hexDigit (c.toNat / 16), hexDigit (c.toNat % 16)]) := by
  unfold escape
  split
  · exact .inr (.inl ⟨'"', rfl, by decide, rfl⟩)
  · exact .inr (.inl ⟨'\\', rfl, by decide, rfl⟩)
  · exact .inr (.inl ⟨'b', rfl, by decide, rfl⟩)
  · exact .inr (.inl ⟨'f', rfl, by decide, rfl⟩)
  · exact .inr (.inl ⟨'n', rfl, by decide, rfl⟩)
  · exact .inr (.inl ⟨'r', rfl, by decide, rfl⟩)
  · exact .inr (.inl ⟨'t', rfl, by decide, rfl⟩)
  · next noQuote noSlash _ _ _ _ _ =>
    split
    · next low => exact .inr (.inr ⟨low, rfl⟩)
    · next notLow => exact .inl ⟨rfl, noQuote, noSlash, notLow⟩

theorem stringRest_escape (c : Char) (done rest : List Char) :
    stringRest .plain done (escape c ++ rest) = stringRest .plain (c :: done) rest := by
  rcases escape_cases c with ⟨plain, noQuote, noSlash, notLow⟩ | ⟨e, named, notCode, meant⟩ | ⟨low, coded⟩
  · rw [plain, List.singleton_append, stringRest, if_neg noQuote, if_neg noSlash, if_neg notLow]
  · rw [named]
    show stringRest .escape done (e :: rest) = _
    rw [stringRest, if_neg notCode, meant]
  · have high := hexValue?_hexDigit (n := c.toNat / 16) (by omega)
    have lowDigit := hexValue?_hexDigit (n := c.toNat % 16) (by omega)
    have sum : c.toNat / 16 * 16 + c.toNat % 16 = c.toNat := by omega
    rw [coded]
    show stringRest (.code 1 0 none) done (hexDigit (c.toNat / 16) :: hexDigit (c.toNat % 16) :: rest) = _
    simp only [stringRest, high, lowDigit, Nat.zero_mul, Nat.zero_add, sum]
    have meant : codePoint? c.toNat none = some (.inl c) := by
      rw [codePoint?, if_neg (by omega), if_neg (by omega), Char.ofNat_toNat]
    rw [meant]

theorem stringRest_quoted (text : String) (rest : List Char) :
    stringRest .plain [] (text.toList.flatMap escape ++ '"' :: rest) = some (text, rest) := by
  have read (chars done : List Char) :
      stringRest .plain done (chars.flatMap escape ++ '"' :: rest) =
        some (String.ofList (done.reverse ++ chars), rest) := by
    induction chars generalizing done with
    | nil =>
      rw [List.append_nil]
      rfl
    | cons c chars ih =>
      rw [List.flatMap_cons, List.append_assoc, stringRest_escape, ih, List.reverse_cons, List.append_assoc,
        List.singleton_append]
  rw [read, List.reverse_nil, List.nil_append, String.ofList_toList]

theorem toList_quoted_append (text : String) (rest : List Char) :
    (quoted text).toList ++ rest = '"' :: (text.toList.flatMap escape ++ '"' :: rest) := by
  rw [quoted, String.toList_ofList, List.cons_append, List.append_assoc, List.singleton_append]

theorem skip_indent (level : Nat) (text : List Char) : skip ((indent level).toList ++ text) = skip text := by
  have blank : ∀ c ∈ (indent level).toList, isSpace c = true := by
    intro c member
    rw [indent, String.toList_ofList, List.mem_cons] at member
    rcases member with rfl | blank
    · rfl
    · rw [List.eq_of_mem_replicate blank]
      rfl
  exact List.dropWhile_append_of_pos blank

theorem value_indent (fuel depth level : Nat) (text : List Char) :
    value fuel depth ((indent level).toList ++ text) = value fuel depth text := by
  cases fuel with
  | zero => rfl
  | succ fuel => rw [value, value, skip_indent]

theorem items_indent (fuel depth level : Nat) (text : List Char) :
    items fuel depth ((indent level).toList ++ text) = items fuel depth text := by
  cases fuel with
  | zero => rfl
  | succ fuel => rw [items, items, value_indent]

theorem members_indent (fuel depth level : Nat) (text : List Char) :
    members fuel depth ((indent level).toList ++ text) = members fuel depth text := by
  cases fuel with
  | zero => rfl
  | succ fuel => rw [members, members, skip_indent]

theorem stops_indent (level : Nat) (rest : List Char) : Stops ((indent level).toList ++ rest) := by
  rw [indent, String.toList_ofList]
  exact stops_cons rfl (by decide)

end Reader

def blockRest (closer : Char) (level : Nat) : List String → List Char → List Char
  | [], rest => (indent level).toList ++ closer :: rest
  | line :: lines, rest =>
    ',' :: ((indent (level + 1)).toList ++ (line.toList ++ blockRest closer level lines rest))

theorem stops_blockRest (closer : Char) (level : Nat) (lines : List String) (rest : List Char) :
    Stops (blockRest closer level lines rest) := by
  cases lines with
  | nil => exact stops_indent level _
  | cons _ _ => exact stops_cons rfl (by decide)

theorem block_append {opening closing : String} {opener closer : Char} (isOpening : opening.toList = [opener])
    (isClosing : closing.toList = [closer]) (level : Nat) (line : String) (lines : List String)
    (rest : List Char) :
    (block opening closing level (line :: lines)).toList ++ rest =
      opener :: ((indent (level + 1)).toList ++ (line.toList ++ blockRest closer level lines rest)) := by
  have later (line : String) : (("," ++ indent (level + 1)).intercalate (line :: lines)).toList ++
      ((indent level).toList ++ closer :: rest) = line.toList ++ blockRest closer level lines rest := by
    induction lines generalizing line with
    | nil => rw [String.intercalate_singleton, blockRest]
    | cons second lines ih =>
      rw [String.intercalate_cons_cons, String.toList_append, String.toList_append, List.append_assoc,
        List.append_assoc, ih, String.toList_append]
      simp [blockRest]
  have parted : (block opening closing level (line :: lines)).toList ++ rest =
      opener :: ((indent (level + 1)).toList ++
        ((("," ++ indent (level + 1)).intercalate (line :: lines)).toList ++
          ((indent level).toList ++ closer :: rest))) := by
    simp [block, isOpening, isClosing]
  rw [parted, later]

mutual

/-- What the text of a value is read as, where `depth` arrays or objects may still be entered. -/
def reread (depth : Nat) : Json → Option Json
  | .number n => (value 1 depth n.text.toList).map Prod.fst
  | .array items =>
    match depth with
    | 0 => none
    | depth + 1 => (rereadItems depth items).map .array
  | .object members =>
    match depth with
    | 0 => none
    | depth + 1 => (rereadMembers depth members).map .object
  | .null => some .null
  | .bool b => some (.bool b)
  | .string s => some (.string s)

def rereadItems (depth : Nat) : List Json → Option (List Json)
  | [] => some []
  | item :: rest =>
    match reread depth item with
    | none => none
    | some item => (rereadItems depth rest).map (item :: ·)

def rereadMembers (depth : Nat) : List (String × Json) → Option (List (String × Json))
  | [] => some []
  | (key, item) :: rest =>
    match reread depth item with
    | none => none
    | some item => (rereadMembers depth rest).map ((key, item) :: ·)

end

mutual

def steps : Json → Nat
  | .array items => itemSteps items + 1
  | .object members => memberSteps members + 1
  | _ => 1

def itemSteps : List Json → Nat
  | [] => 0
  | item :: rest => steps item + itemSteps rest + 1

def memberSteps : List (String × Json) → Nat
  | [] => 0
  | (_, item) :: rest => steps item + memberSteps rest + 1

end

theorem steps_pos (v : Json) : 0 < steps v := by cases v <;> simp [steps]

theorem items_succ (fuel depth : Nat) (text : List Char) :
    Reader.items (fuel + 1) depth text =
      match value fuel depth text with
      | none => none
      | some (item, rest) =>
        match skip rest with
        | ',' :: rest => (Reader.items fuel depth rest).map fun (list, rest) => (item :: list, rest)
        | ']' :: rest => some ([item], rest)
        | _ => none := rfl

theorem skip_blockRest_nil (closer : Char) (closes : isSpace closer = false) (level : Nat)
    (rest : List Char) : skip (blockRest closer level [] rest) = closer :: rest := by
  rw [blockRest, skip_indent]
  exact List.dropWhile_cons_of_neg (by rw [closes]; exact Bool.false_ne_true)

theorem skip_blockRest_cons (closer : Char) (level : Nat) (line : String) (lines : List String)
    (rest : List Char) :
    skip (blockRest closer level (line :: lines) rest) =
      ',' :: ((indent (level + 1)).toList ++ (line.toList ++ blockRest closer level lines rest)) := rfl

theorem value_list (fuel depth : Nat) (text : List Char) :
    value (fuel + 1) depth ('[' :: text) =
      match depth with
      | 0 => none
      | depth + 1 =>
        match skip text with
        | ']' :: rest => some (.array [], rest)
        | rest => (Reader.items fuel depth rest).map fun (list, rest) => (.array list, rest) := rfl

theorem value_object (fuel depth : Nat) (text : List Char) :
    value (fuel + 1) depth ('\x7b' :: text) =
      match depth with
      | 0 => none
      | depth + 1 =>
        match skip text with
        | '\x7d' :: rest => some (.object [], rest)
        | rest => (members fuel depth rest).map fun (list, rest) => (.object list, rest) := rfl

theorem block_nil_append {opening closing : String} {opener closer : Char}
    (isOpening : opening.toList = [opener]) (isClosing : closing.toList = [closer]) (level : Nat)
    (rest : List Char) : (block opening closing level []).toList ++ rest = opener :: closer :: rest := by
  simp [block, isOpening, isClosing]

theorem head_prettyAt (v : Json) (level : Nat) (rest : List Char) :
    ∃ c later, (v.prettyAt level).toList ++ rest = c :: later ∧ isSpace c = false ∧ c ≠ ']' := by
  have bracket {opening closing : String} {opener closer : Char} (isOpening : opening.toList = [opener])
      (isClosing : closing.toList = [closer]) (opens : isSpace opener = false ∧ opener ≠ ']')
      (lines : List String) : ∃ c later, (block opening closing level lines).toList ++ rest = c :: later ∧
        isSpace c = false ∧ c ≠ ']' := by
    cases lines with
    | nil => exact ⟨opener, _, block_nil_append isOpening isClosing level rest, opens⟩
    | cons line lines =>
      exact ⟨opener, _, block_append isOpening isClosing level line lines rest, opens⟩
  cases v with
  | number n =>
    obtain ⟨c, later, isText, isHead⟩ := head_number n
    refine ⟨c, later ++ rest, by rw [prettyAt, isText]; rfl, ?_⟩
    rcases isHead with isDigit | rfl | rfl
    · have differs {d : Char} (notDigit : d.isDigit = false) : c ≠ d := Text.ne_of_isDigit isDigit notDigit
      refine ⟨?_, differs rfl⟩
      simp [isSpace, differs (d := ' ') rfl, differs (d := '\t') rfl, differs (d := '\n') rfl,
        differs (d := '\r') rfl]
    · exact ⟨rfl, by decide⟩
    · exact ⟨rfl, by decide⟩
  | bool b => cases b <;> exact ⟨_, _, by rw [prettyAt]; rfl, rfl, by decide⟩
  | null => exact ⟨_, _, by rw [prettyAt]; rfl, rfl, by decide⟩
  | string s => exact ⟨_, _, by rw [prettyAt, toList_quoted_append], rfl, by decide⟩
  | array items =>
    rw [prettyAt]
    exact bracket rfl rfl ⟨rfl, by decide⟩ _
  | object members =>
    rw [prettyAt]
    exact bracket rfl rfl ⟨rfl, by decide⟩ _

theorem value_list_cons (fuel depth level : Nat) (item : Json) (rest : List Char) :
    value (fuel + 1) (depth + 1) ('[' :: ((indent level).toList ++ ((item.prettyAt level).toList ++ rest))) =
      (Reader.items fuel depth ((item.prettyAt level).toList ++ rest)).map
        fun (list, rest) => (.array list, rest) := by
  obtain ⟨c, later, isText, notBlank, notClosing⟩ := head_prettyAt item level rest
  have skipped : skip (c :: later) = c :: later :=
    List.dropWhile_cons_of_neg (by rw [notBlank]; exact Bool.false_ne_true)
  rw [value_list, skip_indent, isText, skipped]
  dsimp only
  split
  · next isClosing => exact absurd (List.cons.inj isClosing).1 notClosing
  · rfl

theorem toList_member_append (key : String) (item : Json) (level : Nat) (rest : List Char) :
    (quoted key ++ ": " ++ item.prettyAt level).toList ++ rest =
      '"' :: (key.toList.flatMap escape ++ '"' :: ':' :: ' ' :: ((item.prettyAt level).toList ++ rest)) := by
  rw [String.append_assoc, String.toList_append, List.append_assoc, toList_quoted_append]
  simp

theorem value_object_cons (fuel depth level : Nat) (key : String) (item : Json) (rest : List Char) :
    value (fuel + 1) (depth + 1)
      ('\x7b' :: ((indent level).toList ++ ((quoted key ++ ": " ++ item.prettyAt level).toList ++ rest))) =
      (members fuel depth ((quoted key ++ ": " ++ item.prettyAt level).toList ++ rest)).map
        fun (list, rest) => (.object list, rest) := by
  rw [value_object, skip_indent, toList_member_append]
  rfl

theorem members_succ (fuel depth : Nat) (key : String) (text : List Char) :
    members (fuel + 1) depth ('"' :: (key.toList.flatMap escape ++ '"' :: ':' :: ' ' :: text)) =
      match value fuel depth text with
      | none => none
      | some (item, rest) =>
        match skip rest with
        | ',' :: rest => (members fuel depth rest).map fun (list, rest) => ((key, item) :: list, rest)
        | '\x7d' :: rest => some ([(key, item)], rest)
        | _ => none := by
  have blank : value fuel depth (' ' :: text) = value fuel depth text := by
    cases fuel <;> rfl
  have quote (text : List Char) : skip ('"' :: text) = '"' :: text := rfl
  have colon (text : List Char) : skip (':' :: text) = ':' :: text := rfl
  have read := members.eq_2 depth ('"' :: (key.toList.flatMap escape ++ '"' :: ':' :: ' ' :: text)) fuel
  simp only [quote, stringRest_quoted, colon, blank] at read
  exact read

theorem toList_openList : "[".toList = ['['] := rfl

theorem toList_closeList : "]".toList = [']'] := rfl

theorem toList_openObject : "\x7b".toList = ['\x7b'] := rfl

theorem toList_closeObject : "\x7d".toList = ['\x7d'] := rfl

mutual

/-- The reader takes the text of a value as what it is reread as, whatever follows. -/
theorem value_prettyAt (v : Json) (fuel depth level : Nat) {rest : List Char} (enough : steps v ≤ fuel)
    (stops : Stops rest) :
    value fuel depth ((v.prettyAt level).toList ++ rest) = (reread depth v).map (·, rest) := by
  -- by recursion on the fuel, of which every call of the reader takes one
  match fuel, v with
  | 0, v => exact absurd enough (by have := steps_pos v; omega)
  | fuel + 1, .null =>
    rw [prettyAt]
    rfl
  | fuel + 1, .bool true =>
    rw [prettyAt]
    rfl
  | fuel + 1, .bool false =>
    rw [prettyAt]
    rfl
  | fuel + 1, .number n =>
    obtain ⟨result, read⟩ := value_number n
    have alone := read 0 depth [] stops_nil
    rw [List.append_nil] at alone
    rw [prettyAt, read fuel depth rest stops, reread, alone, Option.map_map, Option.map_map]
    rfl
  | fuel + 1, .string s =>
    rw [prettyAt, toList_quoted_append]
    show (stringRest .plain [] _).map _ = _
    rw [stringRest_quoted]
    rfl
  | fuel + 1, .array [] =>
    rw [prettyAt, prettyItems, block_nil_append toList_openList toList_closeList, value_list]
    cases depth <;> rfl
  | fuel + 1, .array (item :: items) =>
    rw [steps] at enough
    rw [prettyAt, prettyItems, block_append toList_openList toList_closeList]
    cases depth with
    | zero => rfl
    | succ depth =>
      rw [value_list_cons, items_prettyAt item items fuel depth level rest (by omega), reread, Option.map_map,
        Option.map_map]
      rfl
  | fuel + 1, .object [] =>
    rw [prettyAt, prettyMembers, block_nil_append toList_openObject toList_closeObject, value_object]
    cases depth <;> rfl
  | fuel + 1, .object ((key, item) :: list) =>
    rw [steps] at enough
    rw [prettyAt, prettyMembers, block_append toList_openObject toList_closeObject]
    cases depth with
    | zero => rfl
    | succ depth =>
      rw [value_object_cons, members_prettyAt key item list fuel depth level rest (by omega), reread,
        Option.map_map, Option.map_map]
      rfl
termination_by structural fuel

theorem items_prettyAt (item : Json) (list : List Json) (fuel depth level : Nat) (rest : List Char)
    (enough : itemSteps (item :: list) ≤ fuel) :
    Reader.items fuel depth ((item.prettyAt (level + 1)).toList ++
      blockRest ']' level (prettyItems (level + 1) list) rest) =
      (rereadItems depth (item :: list)).map (·, rest) := by
  rw [itemSteps] at enough
  match fuel with
  | 0 => omega
  | fuel + 1 =>
    rw [items_succ, value_prettyAt item fuel depth (level + 1) (by omega) (stops_blockRest _ _ _ _),
      rereadItems]
    cases reread depth item with
    | none => rfl
    | some read =>
      match list with
      | [] =>
        simp only [Option.map_some, prettyItems, skip_blockRest_nil ']' rfl, rereadItems]
      | second :: list =>
        have later := items_prettyAt second list fuel depth level rest (by omega)
        rw [prettyItems, Option.map_some]
        simp only [skip_blockRest_cons]
        rw [items_indent, later, Option.map_map, Option.map_map]
        rfl
termination_by structural fuel

theorem members_prettyAt (key : String) (item : Json) (list : List (String × Json)) (fuel depth level : Nat)
    (rest : List Char) (enough : memberSteps ((key, item) :: list) ≤ fuel) :
    Reader.members fuel depth ((quoted key ++ ": " ++ item.prettyAt (level + 1)).toList ++
      blockRest '\x7d' level (prettyMembers (level + 1) list) rest) =
      (rereadMembers depth ((key, item) :: list)).map (·, rest) := by
  rw [memberSteps] at enough
  match fuel with
  | 0 => omega
  | fuel + 1 =>
    rw [toList_member_append, members_succ,
      value_prettyAt item fuel depth (level + 1) (by omega) (stops_blockRest _ _ _ _), rereadMembers]
    cases reread depth item with
    | none => rfl
    | some read =>
      match list with
      | [] =>
        simp only [Option.map_some, prettyMembers, skip_blockRest_nil '\x7d' rfl, rereadMembers]
      | (nextKey, second) :: list =>
        have later := members_prettyAt nextKey second list fuel depth level rest (by omega)
        rw [prettyMembers, Option.map_some]
        simp only [skip_blockRest_cons]
        rw [members_indent, later, Option.map_map, Option.map_map]
        rfl
termination_by structural fuel

end

mutual

theorem steps_le (v : Json) (level : Nat) : steps v ≤ 2 * (v.prettyAt level).toList.length := by
  have scalar : steps v = 1 → steps v ≤ 2 * (v.prettyAt level).toList.length := by
    intro isOne
    obtain ⟨c, later, isText, -⟩ := head_prettyAt v level []
    rw [List.append_nil] at isText
    rw [isOne, isText, List.length_cons]
    omega
  match v with
  | .null => exact scalar rfl
  | .bool _ => exact scalar rfl
  | .number _ => exact scalar rfl
  | .string _ => exact scalar rfl
  | .array [] => exact scalar rfl
  | .object [] => exact scalar rfl
  | .array (item :: list) =>
    have first := steps_le item (level + 1)
    have later := itemSteps_le list level
    have isText := block_append toList_openList toList_closeList level (prettyAt (level + 1) item)
      (prettyItems (level + 1) list) []
    rw [List.append_nil] at isText
    rw [prettyAt, prettyItems, isText, steps, itemSteps, List.length_cons, List.length_append,
      List.length_append]
    omega
  | .object ((key, item) :: list) =>
    have first := steps_le item (level + 1)
    have later := memberSteps_le list level
    have isText := block_append toList_openObject toList_closeObject level
      (quoted key ++ ": " ++ prettyAt (level + 1) item) (prettyMembers (level + 1) list) []
    rw [List.append_nil] at isText
    rw [prettyAt, prettyMembers, isText, steps, memberSteps, List.length_cons, List.length_append,
      List.length_append, String.toList_append, List.length_append]
    omega

theorem itemSteps_le (list : List Json) (level : Nat) :
    itemSteps list ≤ 2 * (blockRest ']' level (prettyItems (level + 1) list) []).length := by
  match list with
  | [] => exact Nat.zero_le _
  | item :: list =>
    have first := steps_le item (level + 1)
    have later := itemSteps_le list level
    rw [itemSteps, prettyItems, blockRest, List.length_cons, List.length_append, List.length_append]
    omega

theorem memberSteps_le (list : List (String × Json)) (level : Nat) :
    memberSteps list ≤ 2 * (blockRest '\x7d' level (prettyMembers (level + 1) list) []).length := by
  match list with
  | [] => exact Nat.zero_le _
  | (key, item) :: list =>
    have first := steps_le item (level + 1)
    have later := memberSteps_le list level
    rw [memberSteps, prettyMembers, blockRest, List.length_cons, List.length_append, List.length_append,
      String.toList_append, List.length_append]
    omega

end

theorem find?_rereadMembers {depth : Nat} {members result : List (String × Json)}
    (read : rereadMembers depth members = some result) (key : String) :
    (Dict.find? key members).map (reread depth) = (Dict.find? key result).map some := by
  induction members generalizing result with
  | nil =>
    obtain rfl := Option.some.inj read
    rfl
  | cons member rest ih =>
    obtain ⟨name, item⟩ := member
    rw [rereadMembers] at read
    cases isItem : reread depth item with
    | none =>
      rw [isItem] at read
      cases read
    | some value =>
      rw [isItem] at read
      obtain ⟨others, isRest, rfl⟩ := Option.map_eq_some_iff.mp read
      rw [Dict.find?, Dict.find?]
      split
      · rw [Option.map_some, Option.map_some, isItem]
      · exact ih isRest

/-- What is written over several lines is read as its numbers are, unless it is nested too deep. -/
theorem parse?_pretty (v : Json) : parse? v.pretty = reread maxDepth v := by
  have enough : steps v ≤ 2 * v.pretty.toList.length + 1 := by
    have := steps_le v 0
    rw [pretty]
    omega
  have read := value_prettyAt v _ maxDepth 0 enough stops_nil
  rw [List.append_nil] at read
  rw [parse?, pretty]
  rw [pretty] at read
  rw [read]
  cases reread maxDepth v <;> rfl

end Json

namespace Command

theorem parse?_stored (contract : Contract) :
    Json.parse? (stored contract).pretty =
      (Json.reread (Json.maxDepth - 1) contract.encode).map fun api =>
        .object [("api", api), ("hash", .string contract.contentHash)] := by
  rw [Json.parse?_pretty, stored]
  show (Json.rereadMembers (Json.maxDepth - 1) _).map _ = _
  rw [Json.rereadMembers]
  cases Json.reread (Json.maxDepth - 1) contract.encode <;> rfl

theorem storedHash?_stored (contract : Contract) :
    storedHash? (stored contract).pretty =
      (Json.reread (Json.maxDepth - 1) contract.encode).map fun _ => contract.contentHash := by
  have inOrder (api : Json) :
      (Json.object [("api", api), ("hash", .string contract.contentHash)]).ordered =
        .object [("api", api.ordered), ("hash", .string contract.contentHash)] := by
    have increasing : [("api", api.ordered), ("hash", .string contract.contentHash)].Pairwise
        (fun a b => a.1 < b.1) := by
      have before : "api" < "hash" := by decide
      exact List.pairwise_pair.mpr before
    simp only [Json.ordered, Json.orderedMembers,
      Dict.ofList_of_perm (List.Perm.refl (Dict.mk _ increasing).entries)]
  rw [storedHash?, Json.read?, parse?_stored]
  cases Json.reread (Json.maxDepth - 1) contract.encode with
  | none => rfl
  | some api =>
    rw [Option.map_some, Option.map_some, inOrder]
    rfl

end Command
end WireContract

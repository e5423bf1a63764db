import WireContract.Yaml.Token

namespace WireContract
namespace Yaml

structure Gap where
  blanks : List Char
  lead : List Char
  trail : List Char
  broken : Bool

namespace Gap

def none : Gap := ⟨[], [], [], false⟩

/-- What a gap contributes to the text: a single line break becomes a blank. -/
def text (gap : Gap) : List Char :=
  if !gap.broken then gap.blanks
  else
    match gap.lead with
    | '\n' :: _ => if gap.trail.isEmpty then [' '] else gap.trail
    | lead => lead ++ gap.trail

end Gap

/-- Reads the blanks and line breaks here; `tabsFrom` is the column from which a line may be
indented by tabs, if there is such a limit. -/
def readGap (tabsFrom : Option Nat) : Nat → Gap → Cursor → Option (Gap × Cursor)
  | 0, gap, cursor => some (gap, cursor)
  | fuel + 1, gap, cursor =>
    match cursor.rest with
    | [] => some (gap, cursor)
    | c :: _ =>
      if isBlank c then
        if gap.broken && c == '\t' && tabsFrom.any (cursor.column < ·) then Option.none
        else if gap.broken then readGap tabsFrom fuel gap cursor.next
        else readGap tabsFrom fuel ⟨gap.blanks ++ [c], [], [], false⟩ cursor.next
      else if isBreak c then
        let (feed, cursor) := cursor.nextLine
        if gap.broken then readGap tabsFrom fuel ⟨[], gap.lead, gap.trail ++ feed, true⟩ cursor
        else readGap tabsFrom fuel ⟨[], feed, [], true⟩ cursor
      else some (gap, cursor)

def isFlowIndicator (c : Char) : Bool :=
  c == ',' || c == '[' || c == ']' || c == '\x7b' || c == '\x7d'

def endsPlain (flow : Bool) (text : List Char) : Bool :=
  match text with
  | ':' :: rest => startsBlank rest
  | c :: _ => flow && isFlowIndicator c
  | [] => true

/-- Within brackets a colon may not stand directly before an indicator. -/
def badColon (flow : Bool) (text : List Char) : Bool :=
  match text with
  | ':' :: c :: _ => flow && (isFlowIndicator c || c == '?')
  | _ => false

def plainWord (flow : Bool) : Nat → List Char → Cursor → Option (List Char × Cursor)
  | 0, done, cursor => some (done, cursor)
  | fuel + 1, done, cursor =>
    match cursor.rest with
    | [] => some (done, cursor)
    | c :: _ =>
      if isBlank c || isBreak c then some (done, cursor)
      else if badColon flow cursor.rest then none
      else if endsPlain flow cursor.rest then some (done, cursor)
      else plainWord flow fuel (c :: done) cursor.next

def plainFrom (flow : Bool) (indent : Nat) :
    Nat → List Char → Gap → Cursor → Option (List Char × Bool × Cursor)
  | 0, done, gap, cursor => some (done, gap.broken, cursor)
  | fuel + 1, done, gap, cursor =>
    if cursor.atMarker || cursor.rest.head? == some '#' then some (done, gap.broken, cursor)
    else
      match plainWord flow (cursor.rest.length + 1) [] cursor with
      | none => none
      | some (word, after) =>
        let joined := if word.isEmpty then done else word ++ (gap.text.reverse ++ done)
        let gap := if word.isEmpty then gap else Gap.none
        match after.rest with
        | [] => some (joined, gap.broken, after)
        | c :: _ =>
          if !(isBlank c || isBreak c) then some (joined, gap.broken, after)
          else
            match readGap (some indent) (after.rest.length + 1) gap after with
            | none => none
            | some (gap, after) =>
              if !flow && after.column < indent then some (joined, gap.broken, after)
              else plainFrom flow indent fuel joined gap after

def isHex (c : Char) : Bool :=
  ('0' ≤ c && c ≤ '9') || ('a' ≤ c && c ≤ 'f') || ('A' ≤ c && c ≤ 'F')

def hexValue (digits : List Char) : Nat := digits.foldl (fun n c =>
  n * 16 + (if c ≤ '9' then c.toNat - 48 else if c ≤ 'F' then c.toNat - 55 else c.toNat - 87)) 0

def hexEscape (count : Nat) (text : List Char) : Option Char :=
  let digits := text.take count
  if digits.length = count ∧ digits.all isHex then
    let code := hexValue digits
    if (0xD800 ≤ code ∧ code ≤ 0xDFFF) ∨ 0x10FFFF < code then none else some (Char.ofNat code)
  else none

def escape? (text : List Char) : Option (Char × Nat) :=
  match text with
  | [] => none
  | c :: rest =>
    match c with
    | '0' => some ('\x00', 1)
    | 'a' => some ('\x07', 1)
    | 'b' => some ('\x08', 1)
    | 't' => some ('\t', 1)
    | '\t' => some ('\t', 1)
    | 'n' => some ('\n', 1)
    | 'v' => some ('\x0b', 1)
    | 'f' => some ('\x0c', 1)
    | 'r' => some ('\r', 1)
    | 'e' => some ('\x1b', 1)
    | ' ' => some (' ', 1)
    | '"' => some ('"', 1)
    | '/' => some ('/', 1)
    | '\\' => some ('\\', 1)
    | 'N' => some ('\u0085', 1)
    | '_' => some ('\u00a0', 1)
    | 'L' => some ('\u2028', 1)
    | 'P' => some ('\u2029', 1)
    | 'x' => (hexEscape 2 rest).map (·, 3)
    | 'u' => (hexEscape 4 rest).map (·, 5)
    | 'U' => (hexEscape 8 rest).map (·, 9)
    | _ => none

inductive QuotedStop
  | quote
  | blank
  | escapedBreak

def quotedWord (single : Bool) : Nat → List Char → Cursor → Option (List Char × QuotedStop × Cursor)
  | 0, _, _ => none
  | fuel + 1, done, cursor =>
    match cursor.rest with
    | [] => some (done, .blank, cursor)
    | c :: rest =>
      if isBlank c || isBreak c then some (done, .blank, cursor)
      else if single then
        if c == '\'' then
          match rest with
          | '\'' :: _ => quotedWord single fuel ('\'' :: done) (cursor.skip 2)
          | _ => some (done, .quote, cursor)
        else quotedWord single fuel (c :: done) cursor.next
      else if c == '"' then some (done, .quote, cursor)
      else if c == '\\' then
        match rest with
        | [] => none
        | d :: _ =>
          if isBreak d then some (done, .escapedBreak, cursor.next.nextLine.2)
          else
            match escape? rest with
            | none => none
            | some (char, length) => quotedWord single fuel (char :: done) (cursor.skip (length + 1))
      else quotedWord single fuel (c :: done) cursor.next

def quotedFrom (single : Bool) : Nat → List Char → Cursor → Option (List Char × Cursor)
  | 0, _, _ => none
  | fuel + 1, done, cursor =>
    if cursor.atMarker || cursor.rest.isEmpty then none
    else
      match quotedWord single (cursor.rest.length + 1) done cursor with
      | none => none
      | some (done, stop, cursor) =>
        let quote := if single then '\'' else '"'
        if cursor.rest.head? == some quote then some (done, cursor.next)
        else
          let start : Gap := match stop with
            | .escapedBreak => ⟨[], [], [], true⟩
            | _ => Gap.none
          match readGap none (cursor.rest.length + 1) start cursor with
          | none => none
          | some (gap, cursor) => quotedFrom single fuel (gap.text.reverse ++ done) cursor

inductive Chomping
  | strip
  | clip
  | keep

def blockHeader (cursor : Cursor) : Option (Chomping × Nat × Cursor) :=
  let chomp (cursor : Cursor) : Option (Chomping × Cursor) :=
    match cursor.rest with
    | '+' :: _ => some (.keep, cursor.next)
    | '-' :: _ => some (.strip, cursor.next)
    | _ => none
  let increment (cursor : Cursor) : Option (Nat × Cursor) :=
    match cursor.rest with
    | c :: _ =>
      if c == '0' then none
      else if c.isDigit then some (c.toNat - '0'.toNat, cursor.next)
      else some (0, cursor)
    | [] => some (0, cursor)
  match chomp cursor with
  | some (chomping, cursor) =>
    (increment cursor).map fun (indent, cursor) => (chomping, indent, cursor)
  | none =>
    match increment cursor with
    | none => none
    | some (indent, cursor) =>
      match chomp cursor with
      | some (chomping, cursor) => some (chomping, indent, cursor)
      | none => some (.clip, indent, cursor)

/-- Skips indentation up to `indent` and collects the breaks of empty lines; while the indentation is
not known (`0`), `widest` becomes the widest seen. A tab may not stand in the indentation. -/
def blockBreaks (indent : Nat) :
    Nat → Nat → List Char → Cursor → Option (Nat × List Char × Cursor)
  | 0, widest, breaks, cursor => some (widest, breaks, cursor)
  | fuel + 1, widest, breaks, cursor =>
    let spaces := (cursor.rest.takeWhile (· == ' ')).length
    let cursor := cursor.skip (if indent = 0 then spaces else min spaces (indent - cursor.column))
    let widest := max widest cursor.column
    match cursor.rest with
    | [] => some (widest, breaks, cursor)
    | c :: _ =>
      if c == '\t' && (indent == 0 || cursor.column < indent) then none
      else if isBreak c then
        let (feed, cursor) := cursor.nextLine
        blockBreaks indent fuel widest (breaks ++ feed) cursor
      else some (widest, breaks, cursor)

/-- The lines of a block scalar, its text so far in reverse; `lead` is the break of the last line,
`trail` those of the empty lines after it, `blank` whether it started with a blank. -/
def blockLines (literal : Bool) (indent : Nat) : Nat → List Char → List Char → List Char → Bool →
    Cursor → Option (List Char × List Char × List Char × Cursor)
  | 0, done, lead, trail, _, cursor => some (done, lead, trail, cursor)
  | fuel + 1, done, lead, trail, blank, cursor =>
    match cursor.rest with
    | [] => some (done, lead, trail, cursor)
    | c :: _ =>
      if cursor.column != indent then some (done, lead, trail, cursor)
      else
        let blankNow := isBlank c
        let folded := !literal && lead.head? == some '\n' && !blank && !blankNow
        let joint := if folded then (if trail.isEmpty then [' '] else trail) else lead ++ trail
        let line := cursor.rest.takeWhile fun c => !isBreak c
        let (feed, cursor) := (cursor.skip line.length).nextLine
        match blockBreaks indent (cursor.rest.length + 1) 0 [] cursor with
        | none => none
        | some (_, breaks, cursor) =>
          blockLines literal indent fuel (line.reverse ++ (joint.reverse ++ done)) feed breaks
            blankNow cursor

def blockScalar (literal : Bool) (outer : Int) (cursor : Cursor) : Option (String × Cursor) :=
  match blockHeader cursor with
  | none => none
  | some (chomping, increment, cursor) =>
    match cursor.endLine? with
    | none => none
    | some cursor =>
      let stated := if increment = 0 then 0 else (max outer 0).toNat + increment
      match blockBreaks stated (cursor.rest.length + 1) 0 [] cursor with
      | none => none
      | some (widest, breaks, cursor) =>
        let indent := if stated = 0 then max widest (max (outer + 1) 1).toNat else stated
        match blockLines literal indent (cursor.rest.length + 1) [] [] breaks false cursor with
        | none => none
        | some (done, lead, trail, cursor) =>
          let tail := match chomping with
            | .strip => []
            | .clip => lead
            | .keep => lead ++ trail
          some (String.ofList (done.reverse ++ tail), cursor)

end Yaml
end WireContract

import WireContract.Yaml.Scalar

/-!
From text to tokens. Indentation opens and closes blocks; a key without `?` is recognised at its
colon, and its tokens are then put in front of what stood there.
-/

namespace WireContract
namespace Yaml

structure PossibleKey where
  required : Bool
  token : Nat
  index : Nat
  line : Nat
  column : Nat

/-- A lexer's state. `keys` has one entry for each open bracket and one for the block context. -/
structure Lexer where
  cursor : Cursor
  tokens : Array Token
  indent : Int
  indents : List Int
  flow : Nat
  keyAllowed : Bool
  keys : List (Option PossibleKey)

namespace Lexer

def start (text : List Char) : Lexer := ⟨⟨text, 0, 0, 0⟩, #[], -1, [], 0, true, [none]⟩

def moveTo (lexer : Lexer) (cursor : Cursor) : Lexer := { lexer with cursor := cursor }

def allowKey (lexer : Lexer) (allowed : Bool) : Lexer := { lexer with keyAllowed := allowed }

def withKeys (lexer : Lexer) (keys : List (Option PossibleKey)) : Lexer :=
  { lexer with keys := keys }

def emit (lexer : Lexer) (token : Token) : Lexer :=
  { lexer with tokens := lexer.tokens.push token }

def take (lexer : Lexer) (length : Nat) (token : Token) : Lexer :=
  (lexer.moveTo (lexer.cursor.skip length)).emit token

def putAt (lexer : Lexer) (index : Nat) (token : Token) : Lexer :=
  let (before, after) := (lexer.tokens.toList.take index, lexer.tokens.toList.drop index)
  { lexer with tokens := (before ++ token :: after).toArray }

def inFlow (lexer : Lexer) : Bool := lexer.flow != 0

def openBlock (lexer : Lexer) (column : Nat) (index : Option Nat) (token : Token) : Lexer :=
  if lexer.inFlow || (column : Int) ≤ lexer.indent then lexer
  else
    let opened := { lexer with indent := column, indents := lexer.indent :: lexer.indents }
    match index with
    | none => opened.emit token
    | some index => opened.putAt index token

def closeBlocks (column : Int) (lexer : Lexer) : Lexer :=
  if lexer.inFlow then lexer else close lexer.indents lexer
where
  close : List Int → Lexer → Lexer
    | [], lexer => lexer
    | outer :: rest, lexer =>
      if column < lexer.indent then
        close rest { lexer.emit .blockEnd with indent := outer, indents := rest }
      else lexer

/-- Forgets the possible key of this level; a required one may not be lost. -/
def dropKey (lexer : Lexer) : Option Lexer :=
  match lexer.keys with
  | some key :: rest => if key.required then none else some (lexer.withKeys (none :: rest))
  | _ => some lexer

def noteKey (lexer : Lexer) : Option Lexer :=
  if !lexer.keyAllowed then some lexer
  else
    let cursor := lexer.cursor
    let required := !lexer.inFlow && lexer.indent == cursor.column
    let key : PossibleKey := ⟨required, lexer.tokens.size, cursor.index, cursor.line, cursor.column⟩
    lexer.dropKey.map fun lexer => lexer.withKeys (some key :: lexer.keys.tail)

/-- Forgets keys that started on an earlier line or more than 1024 characters ago. -/
def dropStaleKeys (lexer : Lexer) : Option Lexer :=
  let stale (key : PossibleKey) : Bool :=
    key.line < lexer.cursor.line || key.index + 1024 < lexer.cursor.index
  if lexer.keys.any fun key => key.any fun key => stale key && key.required then none
  else some (lexer.withKeys (lexer.keys.map fun key => key.filter fun key => !stale key))

def skipLayout : Nat → Lexer → Lexer
  | 0, lexer => lexer
  | fuel + 1, lexer =>
    let tabs := lexer.inFlow || !lexer.keyAllowed
    let cursor := lexer.cursor.skipOrderMark
    let cursor := (cursor.skipWhile fun c => c == ' ' || (tabs && c == '\t')).skipComment
    match cursor.rest with
    | c :: _ =>
      if isBreak c then
        let lexer := lexer.moveTo cursor.nextLine.2
        skipLayout fuel (if lexer.inFlow then lexer else lexer.allowKey true)
      else lexer.moveTo cursor
    | [] => lexer.moveTo cursor

def natOf (digits : List Char) : Nat :=
  digits.foldl (fun n c => n * 10 + (c.toNat - '0'.toNat)) 0

def versionPart? (cursor : Cursor) : Option (Nat × Cursor) :=
  let digits := cursor.rest.takeWhile Char.isDigit
  if digits.isEmpty || 9 < digits.length then none
  else some (natOf digits, cursor.skip digits.length)

def version? (cursor : Cursor) : Option (Token × Cursor) :=
  match versionPart? cursor.skipBlanks with
  | none => none
  | some (major, cursor) =>
    match cursor.rest with
    | '.' :: _ => (versionPart? cursor.next).map fun (minor, cursor) => (.version major minor, cursor)
    | _ => none

def handle? (directive : Bool) (cursor : Cursor) : Option (List Char × Cursor) :=
  match cursor.rest with
  | '!' :: rest =>
    let name := rest.takeWhile isNameChar
    let cursor := cursor.skip (name.length + 1)
    match cursor.rest with
    | '!' :: _ => some ('!' :: (name ++ ['!']), cursor.next)
    | _ => if directive && !name.isEmpty then none else some ('!' :: name, cursor)
  | _ => none

def isUriChar (verbatim : Bool) (c : Char) : Bool :=
  isNameChar c || [';', '/', '?', ':', '@', '&', '=', '+', '$', '.', '%', '!', '~', '*', '\'', '(',
    ')'].contains c || (verbatim && (c == ',' || c == '[' || c == ']'))

def percentByte? (text : List Char) : Option Nat :=
  match text with
  | '%' :: a :: b :: _ => if isHex a && isHex b then some (hexValue [a, b]) else none
  | _ => none

def percentTail : Nat → Nat → List Char → Option Nat
  | 0, code, _ => some code
  | count + 1, code, text =>
    match percentByte? text with
    | some byte =>
      if byte / 64 = 2 then percentTail count (code * 64 + byte % 64) (text.drop 3) else none
    | none => none

def percentChar? (text : List Char) : Option (Char × Nat) :=
  match percentByte? text with
  | none => none
  | some byte =>
    let build (count lead : Nat) : Option (Char × Nat) :=
      match percentTail count lead (text.drop 3) with
      | some code => if code.isValidChar then some (Char.ofNat code, count + 1) else none
      | none => none
    if byte < 0x80 then build 0 byte
    else if byte / 32 = 6 then build 1 (byte % 32)
    else if byte / 16 = 14 then build 2 (byte % 16)
    else if byte / 8 = 30 then build 3 (byte % 8)
    else none

def uriFrom (verbatim : Bool) : Nat → List Char → Cursor → Option (List Char × Cursor)
  | 0, done, cursor => some (done, cursor)
  | fuel + 1, done, cursor =>
    match cursor.rest with
    | [] => some (done, cursor)
    | c :: _ =>
      if c == '%' then
        match percentChar? cursor.rest with
        | some (char, bytes) => uriFrom verbatim fuel (char :: done) (cursor.skip (3 * bytes))
        | none => none
      else if isUriChar verbatim c then uriFrom verbatim fuel (c :: done) cursor.next
      else some (done, cursor)

/-- An address that starts with `head`, whose leading mark is not part of it; it may not be empty
unless there is a head. -/
def uri? (verbatim : Bool) (head : List Char) (cursor : Cursor) : Option (String × Cursor) :=
  match uriFrom verbatim (cursor.rest.length + 1) head.tail.reverse cursor with
  | none => none
  | some (done, after) =>
    if head.isEmpty && after.index == cursor.index then none
    else some (String.ofList done.reverse, after)

def tagDirective? (cursor : Cursor) : Option (Token × Cursor) :=
  match handle? true cursor.skipBlanks with
  | none => none
  | some (handle, cursor) =>
    if !(cursor.rest.head?.any isBlank) then none
    else
      match uri? true [] cursor.skipBlanks with
      | none => none
      | some (lead, cursor) =>
        if startsBlank cursor.rest then some (.tagDirective (String.ofList handle) lead, cursor)
        else none

def directive? (cursor : Cursor) : Option (Token × Cursor) :=
  let name := cursor.next.rest.takeWhile isNameChar
  let cursor := cursor.skip (name.length + 1)
  if !startsBlank cursor.rest then none
  else
    let found := match String.ofList name with
      | "YAML" => version? cursor
      | "TAG" => tagDirective? cursor
      | _ => none
    match found with
    | none => none
    | some (token, cursor) => cursor.endLine?.map (token, ·)

def anchorName? (cursor : Cursor) : Option (String × Cursor) :=
  let name := cursor.next.rest.takeWhile isNameChar
  let cursor := cursor.skip (name.length + 1)
  let closed := startsBlank cursor.rest ||
    cursor.rest.head?.any fun c => ['?', ':', ',', ']', '\x7d', '%', '@', '\x60'].contains c
  if name.isEmpty || !closed then none else some (String.ofList name, cursor)

def tag? (flow : Bool) (cursor : Cursor) : Option (Token × Cursor) :=
  let found : Option ((String × String) × Cursor) :=
    match cursor.rest with
    | '!' :: '<' :: _ =>
      match uri? true [] (cursor.skip 2) with
      | some (suffix, cursor) =>
        if cursor.rest.head? == some '>' then some (("", suffix), cursor.next) else none
      | none => none
    | _ =>
      match handle? false cursor with
      | none => none
      | some (handle, after) =>
        if 1 < handle.length && handle.getLast? == some '!' then
          (uri? false [] after).map fun (suffix, cursor) => ((String.ofList handle, suffix), cursor)
        else
          (uri? false handle after).map fun (suffix, cursor) =>
            (if suffix.isEmpty then ("", "!") else ("!", suffix), cursor)
  match found with
  | none => none
  | some ((handle, suffix), cursor) =>
    if (flow && cursor.rest.head? == some ',') || startsBlank cursor.rest then
      some (.tag handle suffix, cursor)
    else none

def toMargin (lexer : Lexer) : Option Lexer :=
  (lexer.closeBlocks (-1)).dropKey.map (·.allowKey false)

def openFlow (lexer : Lexer) (token : Token) : Option Lexer :=
  lexer.noteKey.map fun lexer =>
    let deeper := { lexer with flow := lexer.flow + 1, keys := none :: lexer.keys }
    (deeper.allowKey true).take 1 token

def closeFlow (lexer : Lexer) (token : Token) : Option Lexer :=
  lexer.dropKey.map fun lexer =>
    let keys := if lexer.inFlow then lexer.keys.tail else lexer.keys
    let outer := { lexer with flow := lexer.flow - 1, keys := keys }
    (outer.allowKey false).take 1 token

/-- Opens a block for an entry or key at this column; outside brackets one may start only where keys
may. -/
def openEntry (lexer : Lexer) (token : Token) : Option Lexer :=
  if lexer.inFlow then some lexer
  else if !lexer.keyAllowed then none
  else some (lexer.openBlock lexer.cursor.column none token)

def blockEntry (lexer : Lexer) : Option Lexer :=
  match lexer.openEntry .blockSequenceStart with
  | none => none
  | some lexer => lexer.dropKey.map fun lexer => (lexer.allowKey true).take 1 .blockEntry

def explicitKey (lexer : Lexer) : Option Lexer :=
  match lexer.openEntry .blockMappingStart with
  | none => none
  | some lexer => lexer.dropKey.map fun lexer => (lexer.allowKey (!lexer.inFlow)).take 1 .key

def value (lexer : Lexer) : Option Lexer :=
  match lexer.keys with
  | some key :: rest =>
    let lexer := lexer.putAt key.token .key
    let lexer := lexer.openBlock key.column (some key.token) .blockMappingStart
    some (((lexer.withKeys (none :: rest)).allowKey false).take 1 .value)
  | _ =>
    (lexer.openEntry .blockMappingStart).map fun lexer =>
      (lexer.allowKey (!lexer.inFlow)).take 1 .value

def keyPart (lexer : Lexer) (read : Cursor → Option (Token × Cursor)) : Option Lexer :=
  match lexer.noteKey with
  | none => none
  | some lexer =>
    (read lexer.cursor).map fun (token, cursor) => ((lexer.allowKey false).moveTo cursor).emit token

def plain (lexer : Lexer) : Option Lexer :=
  match lexer.noteKey with
  | none => none
  | some lexer =>
    let cursor := lexer.cursor
    (plainFrom lexer.inFlow (lexer.indent + 1).toNat (cursor.rest.length + 1) [] Gap.none cursor).map
      fun (done, broken, after) =>
        ((lexer.allowKey broken).moveTo after).emit (.scalar (String.ofList done.reverse) .plain)

def quoted (lexer : Lexer) (single : Bool) : Option Lexer :=
  lexer.keyPart fun cursor =>
    (quotedFrom single (cursor.rest.length + 1) [] cursor.next).map fun (done, after) =>
      (.scalar (String.ofList done.reverse) (if single then .singleQuoted else .doubleQuoted), after)

def block (lexer : Lexer) (literal : Bool) : Option Lexer :=
  match lexer.dropKey with
  | none => none
  | some lexer =>
    (blockScalar literal lexer.indent lexer.cursor.next).map fun (text, after) =>
      ((lexer.allowKey true).moveTo after).emit (.scalar text (if literal then .literal else .folded))

def startsPlain (flow : Bool) (text : List Char) : Bool :=
  match text with
  | [] => false
  | c :: rest =>
    let indicators := ['-', '?', ':', ',', '[', ']', '\x7b', '\x7d', '#', '&', '*', '!', '|', '>',
      '\'', '"', '%', '@', '\x60']
    (!isBlank c && !isBreak c && !indicators.contains c) ||
      (c == '-' && !(rest.head?.any isBlank)) ||
      (!flow && (c == '?' || c == ':') && !startsBlank rest)

def token (lexer : Lexer) : Option Lexer :=
  let cursor := lexer.cursor
  let flow := lexer.inFlow
  match cursor.rest with
  | [] => none
  | c :: rest =>
    if cursor.column == 0 && c == '%' then
      match lexer.toMargin with
      | none => none
      | some lexer => (directive? cursor).map fun (token, cursor) => (lexer.moveTo cursor).emit token
    else if cursor.atMarker then
      lexer.toMargin.map fun lexer =>
        lexer.take 3 (if c == '-' then .documentStart else .documentEnd)
    else if c == '[' then lexer.openFlow .flowSequenceStart
    else if c == '\x7b' then lexer.openFlow .flowMappingStart
    else if c == ']' then lexer.closeFlow .flowSequenceEnd
    else if c == '\x7d' then lexer.closeFlow .flowMappingEnd
    else if c == ',' then lexer.dropKey.map fun lexer => (lexer.allowKey true).take 1 .flowEntry
    else if c == '-' && startsBlank rest then lexer.blockEntry
    else if c == '?' && (flow || startsBlank rest) then lexer.explicitKey
    else if c == ':' && (flow || startsBlank rest) then lexer.value
    else if c == '*' then
      lexer.keyPart fun cursor => (anchorName? cursor).map fun (name, cursor) => (.alias name, cursor)
    else if c == '&' then
      lexer.keyPart fun cursor => (anchorName? cursor).map fun (name, cursor) => (.anchor name, cursor)
    else if c == '!' then lexer.keyPart (tag? flow)
    else if c == '|' && !flow then lexer.block true
    else if c == '>' && !flow then lexer.block false
    else if c == '\'' then lexer.quoted true
    else if c == '"' then lexer.quoted false
    else if startsPlain flow cursor.rest then lexer.plain
    else none

def run : Nat → Lexer → Option (List Token)
  | 0, _ => none
  | fuel + 1, lexer =>
    match (lexer.skipLayout (lexer.cursor.rest.length + 1)).dropStaleKeys with
    | none => none
    | some lexer =>
      let lexer := lexer.closeBlocks lexer.cursor.column
      if lexer.cursor.rest.isEmpty then
        lexer.toMargin.map fun lexer => (lexer.emit .streamEnd).tokens.toList
      else
        match lexer.token with
        | none => none
        | some lexer => run fuel lexer

end Lexer

def isAllowed (c : Char) : Bool :=
  c == '\t' || c == '\n' || c == '\r' || (' ' ≤ c && c ≤ '~') || c == '\u0085' ||
    ('\u00a0' ≤ c && c ≤ '\ufffd') || '\ufffd' < c && c.toNat != 0xFFFE && c.toNat != 0xFFFF

def tokens? (text : String) : Option (List Token) :=
  let chars := text.toList
  if chars.all isAllowed then (Lexer.start chars).run (chars.length + 1) else none

end Yaml
end WireContract

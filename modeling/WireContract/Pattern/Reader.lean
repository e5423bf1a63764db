import WireContract.Pattern.Syntax
import WireContract.Decimal.Reading
import WireContract.Unicode.Property

/-!
Reading the text of a pattern. Groups, alternatives and repetitions have their usual precedence; look
ahead, look behind and back references are refused.
-/

namespace WireContract
namespace Pattern
namespace Reader

def isBlank (c : Char) : Bool := Unicode.blank.contains c

def skipLine : List Char → List Char
  | [] => []
  | c :: rest => if c = '\n' then rest else skipLine rest

def skipLayoutFrom : Nat → List Char → List Char
  | 0, text => text
  | fuel + 1, text =>
    match text.dropWhile isBlank with
    | '#' :: rest => skipLayoutFrom fuel (skipLine rest)
    | rest => rest

def skip (layout : Bool) (text : List Char) : List Char :=
  if layout then skipLayoutFrom text.length text else text

/-- Whether the text after its first character, blanks and one comment sign skipped where `x` is on,
starts with one of `signs`. -/
def nextIs (layout : Bool) (signs : List Char) (text : List Char) : Bool :=
  let text := text.tail
  let ahead :=
    if layout then
      match text.dropWhile isBlank with
      | '#' :: rest => rest.dropWhile isBlank
      | rest => rest
    else text
  match ahead with
  | c :: _ => signs.contains c
  | [] => false

def isHex (c : Char) : Bool :=
  ('0' ≤ c && c ≤ '9') || ('a' ≤ c && c ≤ 'f') || ('A' ≤ c && c ≤ 'F')

def hexValue (digits : List Char) : Nat := digits.foldl (fun n c =>
  n * 16 + (if c ≤ '9' then c.toNat - 48 else if c ≤ 'F' then c.toNat - 55 else c.toNat - 87)) 0

def char? (code : Nat) : Option Char :=
  if code < 0xD800 ∨ (0xDFFF < code ∧ code < 0x110000) then some (Char.ofNat code) else none

def hexDigits (layout : Bool) : Nat → List Char → List Char → Option (List Char × List Char)
  | 0, digits, text => some (digits.reverse, text)
  | count + 1, digits, c :: rest =>
    if isHex c then hexDigits layout count (c :: digits) (skip layout rest) else none
  | _ + 1, _, [] => none

def braced (layout : Bool) : Nat → List Char → List Char → Option (List Char × List Char)
  | 0, _, _ => none
  | fuel + 1, done, text =>
    match skip layout text with
    | [] => none
    | c :: rest =>
      if c = '\x7d' then some (done.reverse, rest) else braced layout fuel (c :: done) rest

def hexLiteral (layout : Bool) (count : Nat) (text : List Char) : Option (Atom × List Char) :=
  match skip layout text with
  | [] => none
  | c :: rest =>
    if c = '\x7b' then
      match braced layout (rest.length + 1) [] rest with
      | none => none
      | some (digits, rest) =>
        if digits.isEmpty || !digits.all isHex then none
        else (char? (hexValue digits)).map fun char =>
          (.literal ⟨char, false⟩, skip layout rest)
    else
      match hexDigits layout count [] (c :: rest) with
      | none => none
      | some (digits, rest) =>
        (char? (hexValue digits)).map fun char => (.literal ⟨char, count == 2⟩, rest)

def splitAt? (mark : List Char) : List Char → Option (List Char × List Char)
  | [] => none
  | c :: rest =>
    if mark.isPrefixOf (c :: rest) then some ([], (c :: rest).drop mark.length)
    else (splitAt? mark rest).map fun (before, after) => (c :: before, after)

def propertyOf (negated : Bool) (text : List Char) : Atom :=
  match splitAt? ['!', '='] text with
  | some (name, value) => .property (!negated) (.value (String.ofList name) (String.ofList value))
  | none =>
    match splitAt? [':'] text with
    | some (name, value) => .property negated (.value (String.ofList name) (String.ofList value))
    | none =>
      match splitAt? ['='] text with
      | some (name, value) => .property negated (.value (String.ofList name) (String.ofList value))
      | none => .property negated (.name (String.ofList text))

def propertyClass (layout negated : Bool) (text : List Char) : Option (Atom × List Char) :=
  match skip layout text with
  | [] => none
  | c :: rest =>
    if c = '\x7b' then
      (braced layout (rest.length + 1) [] rest).map fun (name, rest) => (propertyOf negated name, rest)
    else if c = '\\' then none
    else some (.property negated (.name (String.ofList [c])), skip layout rest)

def isWordName (c : Char) : Bool := c.isAlpha || c == '-'

def boundaryName (layout : Bool) : Nat → List Char → List Char → List Char × List Char
  | 0, done, text => (done.reverse, text)
  | fuel + 1, done, text =>
    match text with
    | c :: rest =>
      if isWordName c then boundaryName layout fuel (c :: done) (skip layout rest)
      else (done.reverse, text)
    | [] => (done.reverse, [])

def boundary (layout : Bool) (text : List Char) : Option (Atom × List Char) :=
  match text with
  | '\x7b' :: rest =>
    match skip layout rest with
    | [] => none
    | c :: inner =>
      if !isWordName c then some (.anchor .word, text)
      else
        match boundaryName layout (inner.length + 1) [] (c :: inner) with
        | (name, '\x7d' :: rest) =>
          match String.ofList name with
          | "start" => some (.anchor .wordStart, rest)
          | "end" => some (.anchor .wordEnd, rest)
          | "start-half" => some (.anchor .wordStartHalf, rest)
          | "end-half" => some (.anchor .wordEndHalf, rest)
          | _ => none
        | _ => none
  | _ => some (.anchor .word, text)

def escape (layout : Bool) : List Char → Option (Atom × List Char)
  | [] => none
  | c :: rest =>
    let literal (char : Char) : Option (Atom × List Char) := some (.literal ⟨char, false⟩, rest)
    match c with
    | 'x' => hexLiteral layout 2 rest
    | 'u' => hexLiteral layout 4 rest
    | 'U' => hexLiteral layout 8 rest
    | 'p' => propertyClass layout false rest
    | 'P' => propertyClass layout true rest
    | 'd' => some (.short false .digit, rest)
    | 'D' => some (.short true .digit, rest)
    | 's' => some (.short false .space, rest)
    | 'S' => some (.short true .space, rest)
    | 'w' => some (.short false .word, rest)
    | 'W' => some (.short true .word, rest)
    | 'a' => literal '\x07'
    | 'f' => literal '\x0c'
    | 't' => literal '\t'
    | 'n' => literal '\n'
    | 'r' => literal '\r'
    | 'v' => literal '\x0b'
    | 'A' => some (.anchor .textStart, rest)
    | 'z' => some (.anchor .textEnd, rest)
    | 'b' => boundary layout rest
    | 'B' => some (.anchor .notWord, rest)
    | '<' => some (.anchor .wordStart, rest)
    | '>' => some (.anchor .wordEnd, rest)
    | c => if c.toNat < 128 && !c.isAlphanum then literal c else none

def atom (layout : Bool) : List Char → Option (Atom × List Char)
  | [] => none
  | '\\' :: rest => escape layout rest
  | c :: rest => some (.literal ⟨c, false⟩, rest)

def classNames : List String :=
  [ "alnum", "alpha", "ascii", "blank", "cntrl", "digit", "graph", "lower", "print", "punct",
    "space", "upper", "word", "xdigit" ]

def namedClass? (text : List Char) : Option (ClassSet × List Char) :=
  match text with
  | ':' :: rest =>
    let (negated, rest) := match rest with
      | '^' :: rest => (true, rest)
      | rest => (false, rest)
    match splitAt? [':'] rest with
    | some (name, ']' :: rest) =>
      let name := String.ofList name
      if classNames.contains name then some (.named negated name, rest) else none
    | _ => none
  | _ => none

def unionOf (members : List ClassSet) : ClassSet :=
  match members with
  | [member] => member
  | _ => .union members

/-- The set so far, `members` in reverse after a pending operation. -/
def close (pending : Option (SetOperation × ClassSet)) (members : List ClassSet) : ClassSet :=
  match pending with
  | none => unionOf members.reverse
  | some (op, left) => .operation op left (unionOf members.reverse)

def memberOf : Atom → Option ClassSet
  | .literal l => some (.literal l)
  | .property negated query => some (.property negated query)
  | .short negated kind => some (.short negated kind)
  | .any => none
  | .anchor _ => none

def rangeOrMember (layout : Bool) (text : List Char) : Option (ClassSet × List Char) :=
  match atom layout text with
  | none => none
  | some (first, rest) =>
    match skip layout rest with
    | [] => none
    | c :: after =>
      if c != '-' || nextIs layout [']', '-'] (c :: after) then
        (memberOf first).map (·, c :: after)
      else
        match skip layout after with
        | [] => none
        | after =>
          match first, atom layout after with
          | .literal low, some (.literal high, rest) =>
            if low.char ≤ high.char then some (.range low high, rest) else none
          | _, _ => none

def opening (layout : Bool) : Nat → List ClassSet → List Char → List ClassSet × List Char
  | 0, members, text => (members, text)
  | fuel + 1, members, text =>
    match text with
    | '-' :: rest => opening layout fuel (.literal ⟨'-', false⟩ :: members) (skip layout rest)
    | ']' :: rest =>
      if members.isEmpty then ([.literal ⟨']', false⟩], skip layout rest) else (members, text)
    | _ => (members, text)

mutual

def bracketed (layout : Bool) : Nat → List Char → Option ((Bool × ClassSet) × List Char)
  | 0, _ => none
  | fuel + 1, text =>
    let text := skip layout text
    let (negated, text) := match text with
      | '^' :: rest => (true, skip layout rest)
      | text => (false, text)
    let (members, rest) := opening layout (text.length + 1) [] text
    if rest.isEmpty then none
    else (classMembers layout fuel none members rest).map fun (set, rest) => ((negated, set), rest)

def classMembers (layout : Bool) : Nat → Option (SetOperation × ClassSet) → List ClassSet →
    List Char → Option (ClassSet × List Char)
  | 0, _, _, _ => none
  | fuel + 1, pending, members, text =>
    match skip layout text with
    | [] => none
    | '[' :: rest =>
      match namedClass? rest with
      | some (member, rest) => classMembers layout fuel pending (member :: members) rest
      | none =>
        match bracketed layout fuel rest with
        | none => none
        | some ((negated, inner), rest) =>
          classMembers layout fuel pending (.bracketed negated inner :: members) rest
    | ']' :: rest => some (close pending members, rest)
    | '&' :: '&' :: rest =>
      classMembers layout fuel (some (.intersection, close pending members)) [] rest
    | '-' :: '-' :: rest =>
      classMembers layout fuel (some (.difference, close pending members)) [] rest
    | '~' :: '~' :: rest =>
      classMembers layout fuel (some (.symmetricDifference, close pending members)) [] rest
    | text =>
      match rangeOrMember layout text with
      | none => none
      | some (member, rest) => classMembers layout fuel pending (member :: members) rest

end

def flag? : Char → Option Flag
  | 'i' => some .ignoreCase
  | 'm' => some .multiLine
  | 's' => some .dotAll
  | 'U' => some .swapGreed
  | 'u' => some .unicode
  | 'R' => some .crlf
  | 'x' => some .ignoreBlanks
  | _ => none

/-- Flags up to a colon or a closing parenthesis, which is left standing. No flag and no dash may be
repeated, and a dash needs a flag after it. -/
def flagChange (on : Bool) (dangling : Bool) (done : FlagChange) :
    List Char → Option (FlagChange × List Char)
  | [] => none
  | c :: rest =>
    if c = ':' ∨ c = ')' then if dangling then none else some (done.reverse, c :: rest)
    else if c = '-' then if on then flagChange false true done rest else none
    else
      match flag? c with
      | none => none
      | some flag =>
        if done.any (fun change => change.1 == flag) then none
        else flagChange on false ((flag, on) :: done) rest

def isNameChar (first : Bool) (c : Char) : Bool :=
  if first then c == '_' || Unicode.alphabetic.contains c
  else c == '_' || c == '.' || c == '[' || c == ']' || Unicode.alphabetic.contains c ||
    Unicode.numeric.contains c

def groupName? (text : List Char) : Option (String × List Char) :=
  match splitAt? ['>'] text with
  | some (first :: more, rest) =>
    if isNameChar true first && more.all (isNameChar false) then
      some (String.ofList (first :: more), rest)
    else none
  | _ => none

def sequenceOf (parts : List Node) : Node :=
  match parts with
  | [] => .empty
  | [part] => part
  | _ => .sequence parts

def bodyOf (parts branches : List Node) : Node :=
  match branches with
  | [] => sequenceOf parts.reverse
  | _ => .alternation (sequenceOf parts.reverse :: branches).reverse

def count? (layout : Bool) (text : List Char) : Option (Option Nat × List Char) :=
  let text := text.dropWhile isBlank
  let (digits, rest) := digitsFrom (text.length + 1) [] text
  let rest := skip layout (rest.dropWhile isBlank)
  match digits with
  | [] => some (none, rest)
  | _ =>
    let value := Decimal.natOfDigits digits
    if value < Nat.pow 2 32 then some (some value, rest) else none
where
  digitsFrom : Nat → List Char → List Char → List Char × List Char
    | 0, done, text => (done.reverse, text)
    | fuel + 1, done, text =>
      match text with
      | c :: rest =>
        if '0' ≤ c ∧ c ≤ '9' then digitsFrom fuel (c :: done) (skip layout rest)
        else (done.reverse, text)
      | [] => (done.reverse, [])

def counts? (layout : Bool) (text : List Char) : Option ((Nat × Option Nat) × List Char) :=
  match skip layout text with
  | [] => none
  | text =>
    match count? layout text with
    | some (some least, '\x7d' :: rest) => some ((least, some least), rest)
    | some (some least, ',' :: rest) =>
      match skip layout rest with
      | '\x7d' :: rest => some ((least, none), rest)
      | rest =>
        match count? layout rest with
        | some (some most, '\x7d' :: rest) =>
          if least ≤ most then some ((least, some most), rest) else none
        | _ => none
    | _ => none

def laxMark : List Char → List Char
  | '?' :: rest => rest
  | rest => rest

def repeatLast (parts : List Node) (least : Nat) (most : Option Nat) : Option (List Node) :=
  match parts with
  | [] => none
  | .empty :: _ => none
  | .flags _ :: _ => none
  | part :: earlier => some (.repetition part least most :: earlier)

def layoutAfter (change : FlagChange) (layout : Bool) : Bool :=
  match change.find? fun entry => entry.1 == .ignoreBlanks with
  | some (_, on) => on
  | none => layout

/-- A group after its opening parenthesis: its kind, or the flags it sets for the rest of the
enclosing group. -/
def groupHead (text : List Char) : Option ((GroupKind ⊕ FlagChange) × List Char) :=
  match text with
  | '?' :: '=' :: _ => none
  | '?' :: '!' :: _ => none
  | '?' :: '<' :: '=' :: _ => none
  | '?' :: '<' :: '!' :: _ => none
  | '?' :: 'P' :: '<' :: rest => (groupName? rest).map fun (name, rest) => (.inl (.named name), rest)
  | '?' :: '<' :: rest => (groupName? rest).map fun (name, rest) => (.inl (.named name), rest)
  | '?' :: rest =>
    match flagChange true false [] rest with
    | some (change, ':' :: rest) => some (.inl (.flagged change), rest)
    | some (change, ')' :: rest) => if change.isEmpty then none else some (.inr change, rest)
    | _ => none
  | text => some (.inl .numbered, text)

/-- What is read of the body of a group: the parts of its last branch and the branches before it, in
reverse, and whether blanks are layout. -/
structure Body where
  layout : Bool
  parts : List Node
  branches : List Node

namespace Body

def push (body : Body) (part : Node) : Body := { body with parts := part :: body.parts }

def node (body : Body) : Node := bodyOf body.parts body.branches

end Body

inductive Advance
  /-- the body ends here -/
  | done (rest : List Char)
  | part (body : Body) (rest : List Char)
  /-- a group is opened, in which blanks are layout or not -/
  | group (kind : GroupKind) (layout : Bool) (rest : List Char)

def repeated (body : Body) (least : Nat) (most : Option Nat) (rest : List Char) : Option Advance :=
  (repeatLast body.parts least most).map fun parts => .part { body with parts := parts } rest

def opened (body : Body) (rest : List Char) : Option Advance :=
  match groupHead (skip body.layout rest) with
  | none => none
  | some (.inr change, rest) =>
    some (.part { body.push (.flags change) with layout := layoutAfter change body.layout } rest)
  | some (.inl (.flagged change), rest) =>
    some (.group (.flagged change) (layoutAfter change body.layout) rest)
  | some (.inl kind, rest) => some (.group kind body.layout rest)

def advance (body : Body) (text : List Char) : Option Advance :=
  match skip body.layout text with
  | [] => some (.done [])
  | ')' :: rest => some (.done (')' :: rest))
  | '|' :: rest =>
    some (.part ⟨body.layout, [], sequenceOf body.parts.reverse :: body.branches⟩ rest)
  | '(' :: rest => opened body rest
  | '[' :: rest =>
    (bracketed body.layout (rest.length + 1) rest).map fun ((negated, inner), rest) =>
      .part (body.push (.bracketed negated inner)) rest
  | '?' :: rest => repeated body 0 (some 1) (laxMark rest)
  | '*' :: rest => repeated body 0 none (laxMark rest)
  | '+' :: rest => repeated body 1 none (laxMark rest)
  | '\x7b' :: rest =>
    match counts? body.layout rest with
    | none => none
    | some ((least, most), rest) => repeated body least most (laxMark (skip body.layout rest))
  | '.' :: rest => some (.part (body.push (.atom .any)) rest)
  | '^' :: rest => some (.part (body.push (.atom (.anchor .lineStart))) rest)
  | '$' :: rest => some (.part (body.push (.atom (.anchor .lineEnd))) rest)
  | text =>
    (atom body.layout text).map fun (atom, rest) => .part (body.push (.atom atom)) rest

def bodyFrom : Nat → Body → List Char → Option (Node × List Char)
  | 0, _, _ => none
  | fuel + 1, body, text =>
    match advance body text with
    | none => none
    | some (.done rest) => some (body.node, rest)
    | some (.part body rest) => bodyFrom fuel body rest
    | some (.group kind layout rest) =>
      match bodyFrom fuel ⟨layout, [], []⟩ rest with
      | some (node, ')' :: rest) => bodyFrom fuel (body.push (.group kind node)) rest
      | _ => none

end Reader

def maxDepth : Nat := 250

def read? (text : String) : Option Node :=
  let chars := text.toList
  match Reader.bodyFrom (chars.length + 1) ⟨false, [], []⟩ chars with
  | some (node, []) =>
    if node.depth ≤ maxDepth ∧ node.groupNames.Nodup then some node else none
  | _ => none

end Pattern
end WireContract

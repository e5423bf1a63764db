import WireContract.Pattern.Syntax
import WireContract.Unicode.Property

namespace WireContract
namespace Pattern

inductive WordEdge
  | both
  | neither
  | start
  | finish
  | startHalf
  | finishHalf
  deriving DecidableEq, Repr

inductive Condition
  | textStart
  | textEnd
  | lineStart
  | lineEnd
  | lineStartCrlf
  | lineEndCrlf
  | word (unicode : Bool) (edge : WordEdge)
  deriving DecidableEq, Repr

inductive Expression
  | empty
  | set (s : CodeSet)
  | condition (c : Condition)
  | sequence (first second : Expression)
  | choice (left right : Expression)
  | repetition (body : Expression) (least : Nat) (most : Option Nat)
  | capture (body : Expression)

structure Flags where
  ignoreCase : Bool
  multiLine : Bool
  dotAll : Bool
  unicode : Bool
  crlf : Bool

namespace Flags

def initial : Flags := ⟨false, false, false, true, false⟩

def set (flags : Flags) (flag : Flag) (on : Bool) : Flags :=
  match flag with
  | .ignoreCase => { flags with ignoreCase := on }
  | .multiLine => { flags with multiLine := on }
  | .dotAll => { flags with dotAll := on }
  | .unicode => { flags with unicode := on }
  | .crlf => { flags with crlf := on }
  | .swapGreed => flags
  | .ignoreBlanks => flags

def apply (flags : Flags) (change : FlagChange) : Flags :=
  change.foldl (fun flags entry => flags.set entry.1 entry.2) flags

/-- The set under the case flag: with it every other case of its letters belongs to it. -/
def fold (flags : Flags) (set : CodeSet) : CodeSet :=
  if !flags.ignoreCase then set
  else if flags.unicode then Unicode.foldCase set
  else
    let upper := (set.inter (.range 'a' 'z')).ranges.map fun (low, high) => (low - 32, high - 32)
    let lower := (set.inter (.range 'A' 'Z')).ranges.map fun (low, high) => (low + 32, high + 32)
    CodeSet.ofRanges (set.ranges ++ upper ++ lower)

/-- Case first, then negation; without the Unicode flag no set may leave ASCII. -/
def foldAndNegate (flags : Flags) (negated : Bool) (set : CodeSet) : Option CodeSet :=
  let folded := flags.fold set
  if flags.unicode then some (if negated then folded.complement else folded)
  else if negated then none
  else some folded

end Flags

def rangesOf (pairs : List (Char × Char)) : CodeSet :=
  CodeSet.ofRanges (pairs.map fun (low, high) => (low.toNat, high.toNat))

def namedSet (name : String) : CodeSet :=
  match name with
  | "alnum" => rangesOf [('0', '9'), ('A', 'Z'), ('a', 'z')]
  | "alpha" => rangesOf [('A', 'Z'), ('a', 'z')]
  | "ascii" => rangesOf [('\x00', '\x7f')]
  | "blank" => rangesOf [('\t', '\t'), (' ', ' ')]
  | "cntrl" => rangesOf [('\x00', '\x1f'), ('\x7f', '\x7f')]
  | "digit" => rangesOf [('0', '9')]
  | "graph" => rangesOf [('!', '~')]
  | "lower" => rangesOf [('a', 'z')]
  | "print" => rangesOf [(' ', '~')]
  | "punct" => rangesOf [('!', '/'), (':', '@'), ('[', '\x60'), ('\x7b', '~')]
  | "space" => rangesOf [('\t', '\r'), (' ', ' ')]
  | "upper" => rangesOf [('A', 'Z')]
  | "word" => rangesOf [('0', '9'), ('A', 'Z'), ('_', '_'), ('a', 'z')]
  | "xdigit" => rangesOf [('0', '9'), ('A', 'F'), ('a', 'f')]
  | _ => CodeSet.empty

def asciiWord : CodeSet := namedSet "word"

def shortSet (unicode : Bool) (kind : ShortClass) : CodeSet :=
  match kind, unicode with
  | .digit, true => Unicode.digit
  | .digit, false => namedSet "digit"
  | .space, true => Unicode.blank
  | .space, false => namedSet "space"
  | .word, true => Unicode.word
  | .word, false => asciiWord

def propertySet? (query : PropertyQuery) : Option CodeSet :=
  match query with
  | .name name => Unicode.byName? name
  | .value property value => Unicode.byValue? property value

namespace Flags

def short? (flags : Flags) (negated : Bool) (kind : ShortClass) : Option CodeSet :=
  let set := shortSet flags.unicode kind
  if !negated then some set else if flags.unicode then some set.complement else none

def property? (flags : Flags) (negated : Bool) (query : PropertyQuery) : Option CodeSet :=
  if !flags.unicode then none
  else
    match propertySet? query with
    | none => none
    | some set => flags.foldAndNegate negated set

def member? (flags : Flags) (l : Literal) : Option Char :=
  if flags.unicode || l.char.toNat < 128 then some l.char else none

end Flags

mutual

def ClassSet.codes? (flags : Flags) : ClassSet → Option CodeSet
  | .literal l => (flags.member? l).map CodeSet.single
  | .range low high =>
    match flags.member? low, flags.member? high with
    | some low, some high => some (CodeSet.range low high)
    | _, _ => none
  | .named negated name => flags.foldAndNegate negated (namedSet name)
  | .property negated query => flags.property? negated query
  | .short negated kind => flags.short? negated kind
  | .bracketed negated inner =>
    match inner.codes? flags with
    | none => none
    | some set => flags.foldAndNegate negated set
  | .union members => (ClassSet.codesOfAll flags members).map CodeSet.unions
  | .operation op left right =>
    match left.codes? flags, right.codes? flags with
    | some left, some right =>
      let left := flags.fold left
      let right := flags.fold right
      match op with
      | .intersection => some (left.inter right)
      | .difference => some (left.diff right)
      | .symmetricDifference => some (left.symmDiff right)
    | _, _ => none

def ClassSet.codesOfAll (flags : Flags) : List ClassSet → Option (List CodeSet)
  | [] => some []
  | member :: rest =>
    match member.codes? flags, ClassSet.codesOfAll flags rest with
    | some set, some sets => some (set :: sets)
    | _, _ => none

end

namespace Flags

def literal? (flags : Flags) (l : Literal) : Option Expression :=
  if flags.unicode then some (.set (flags.fold (.single l.char)))
  else if l.char.toNat < 128 then some (.set (flags.fold (.single l.char)))
  else if l.byte then none
  else some (.set (.single l.char))

def dot? (flags : Flags) : Option CodeSet :=
  if !flags.unicode then none
  else if flags.dotAll then some CodeSet.all
  else if flags.crlf then some (rangesOf [('\n', '\n'), ('\r', '\r')]).complement
  else some (CodeSet.single '\n').complement

def condition (flags : Flags) : Anchor → Condition
  | .lineStart =>
    if !flags.multiLine then .textStart else if flags.crlf then .lineStartCrlf else .lineStart
  | .lineEnd =>
    if !flags.multiLine then .textEnd else if flags.crlf then .lineEndCrlf else .lineEnd
  | .textStart => .textStart
  | .textEnd => .textEnd
  | .word => .word flags.unicode .both
  | .notWord => .word flags.unicode .neither
  | .wordStart => .word flags.unicode .start
  | .wordEnd => .word flags.unicode .finish
  | .wordStartHalf => .word flags.unicode .startHalf
  | .wordEndHalf => .word flags.unicode .finishHalf

def atom? (flags : Flags) : Atom → Option Expression
  | .literal l => flags.literal? l
  | .any => flags.dot?.map .set
  | .anchor a => some (.condition (flags.condition a))
  | .property negated query => (flags.property? negated query).map .set
  | .short negated kind => (flags.short? negated kind).map .set

end Flags

mutual

def Node.expression? (flags : Flags) : Node → Option (Expression × Flags)
  | .empty => some (.empty, flags)
  | .flags change => some (.empty, flags.apply change)
  | .atom a => (flags.atom? a).map (·, flags)
  | .bracketed negated inner =>
    match inner.codes? flags with
    | none => none
    | some set => (flags.foldAndNegate negated set).map fun set => (.set set, flags)
  | .repetition body least most =>
    match body.expression? flags with
    | none => none
    | some (expression, after) => some (.repetition expression least most, after)
  | .group kind body =>
    match kind with
    | .flagged change =>
      match body.expression? (flags.apply change) with
      | none => none
      | some (expression, _) => some (expression, flags)
    | _ =>
      match body.expression? flags with
      | none => none
      | some (expression, _) => some (.capture expression, flags)
  | .alternation branches => Node.choiceOf flags branches
  | .sequence parts => Node.sequenceOf flags parts

def Node.choiceOf (flags : Flags) : List Node → Option (Expression × Flags)
  | [] => some (.empty, flags)
  | [branch] => branch.expression? flags
  | branch :: rest =>
    match branch.expression? flags with
    | none => none
    | some (left, flags) =>
      match Node.choiceOf flags rest with
      | none => none
      | some (right, flags) => some (.choice left right, flags)

def Node.sequenceOf (flags : Flags) : List Node → Option (Expression × Flags)
  | [] => some (.empty, flags)
  | [part] => part.expression? flags
  | part :: rest =>
    match part.expression? flags with
    | none => none
    | some (first, flags) =>
      match Node.sequenceOf flags rest with
      | none => none
      | some (second, flags) => some (.sequence first second, flags)

end

end Pattern
end WireContract

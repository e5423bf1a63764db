import WireContract.Pattern.Reader
import WireContract.Pattern.Size

/-!
Whether an expression matches somewhere in a text. An expression takes a set of positions to the set
of positions at which its matches from there end.
-/

namespace WireContract
namespace Pattern

abbrev Positions := List Nat

namespace Positions

def union : Positions → Positions → Positions
  | [], right => right
  | a :: left, right => mergeFrom a left right
where
  mergeFrom (a : Nat) (left : Positions) : Positions → Positions
    | [] => a :: left
    | b :: right =>
      if a < b then
        match left with
        | [] => a :: b :: right
        | a' :: left => a :: mergeFrom a' left (b :: right)
      else if b < a then b :: mergeFrom a left right
      else
        match left with
        | [] => a :: right
        | a' :: left => a :: mergeFrom a' left right
  termination_by right => left.length + right.length

def without (positions removed : Positions) : Positions :=
  positions.filter fun p => !removed.contains p

end Positions

namespace WordEdge

def holds (edge : WordEdge) (before after : Bool) : Bool :=
  match edge with
  | .both => before != after
  | .neither => before == after
  | .start => !before && after
  | .finish => before && !after
  | .startHalf => !before
  | .finishHalf => !after

end WordEdge

def isWord (unicode : Bool) (c : Option Char) : Bool :=
  match c with
  | none => false
  | some c => if unicode then Unicode.word.contains c else asciiWord.contains c

def Condition.holds (text : Array Char) (position : Nat) : Condition → Bool
  | .textStart => position == 0
  | .textEnd => position == text.size
  | .lineStart => position == 0 || text[position - 1]? == some '\n'
  | .lineEnd => position == text.size || text[position]? == some '\n'
  | .lineStartCrlf =>
    position == 0 || text[position - 1]? == some '\n' ||
      (text[position - 1]? == some '\r' && text[position]? != some '\n')
  | .lineEndCrlf =>
    position == text.size || text[position]? == some '\r' ||
      (text[position]? == some '\n' && (position == 0 || text[position - 1]? != some '\r'))
  | .word unicode edge =>
    let before := if position = 0 then none else text[position - 1]?
    edge.holds (isWord unicode before) (isWord unicode text[position]?)

def iterate (step : Positions → Positions) : Nat → Positions → Positions
  | 0, positions => positions
  | count + 1, positions =>
    if positions.isEmpty then [] else iterate step count (step positions)

/-- Applies `step` up to `count` times, `reached` collecting and `fresh` holding the positions
reached last. -/
def spread (step : Positions → Positions) : Nat → Positions → Positions → Positions
  | 0, reached, _ => reached
  | count + 1, reached, fresh =>
    let next := (step fresh).without reached
    if next.isEmpty then reached else spread step count (reached.union next) next

/-- Where the matches that start at some of the positions end. A body repeated more often than the
text has positions repeats the empty match, so counts above that are cut. -/
def Expression.ends (text : Array Char) : Expression → Positions → Positions
  | .empty, positions => positions
  | .set s, positions => positions.filterMap fun p =>
    match text[p]? with
    | some c => if s.contains c then some (p + 1) else none
    | none => none
  | .condition c, positions => positions.filter fun p => c.holds text p
  | .sequence first second, positions => second.ends text (first.ends text positions)
  | .choice left right, positions => (left.ends text positions).union (right.ends text positions)
  | .repetition body least most, positions =>
    let bound := text.size + 1
    let started := iterate (body.ends text) (min least bound) positions
    let more := match most with
      | none => bound
      | some most => min (most - least) bound
    spread (body.ends text) more started started
  | .capture body, positions => body.ends text positions

def Expression.matchesIn (e : Expression) (text : String) : Bool :=
  let chars := text.toList.toArray
  !(e.ends chars (List.range (chars.size + 1))).isEmpty

end Pattern

/-- The expression of a pattern text; none if the text is no pattern or asks for too much room. -/
def Pattern.compile? (pattern : String) : Option Pattern.Expression :=
  match Pattern.read? pattern with
  | none => none
  | some node =>
    match node.expression? Pattern.Flags.initial with
    | some (e, _) => if e.fits then some e else none
    | none => none

def Pattern.search? (pattern text : String) : Option Bool :=
  (Pattern.compile? pattern).map fun e => e.matchesIn text

end WireContract

import WireContract.Pattern.Expression

/-!
How much room an expression takes when every repetition is written out over bytes. Expressions beyond
a limit are refused.
-/

namespace WireContract
namespace Pattern

abbrev ByteRange := Nat × Nat

def encodeCode (length code : Nat) : List Nat :=
  match length with
  | 1 => [code]
  | 2 => [0xC0 + code / 64, 0x80 + code % 64]
  | 3 => [0xE0 + code / 4096, 0x80 + code / 64 % 64, 0x80 + code % 64]
  | _ => [0xF0 + code / 262144, 0x80 + code / 4096 % 64, 0x80 + code / 64 % 64, 0x80 + code % 64]

def byLength (range : Nat × Nat) : List (Nat × Nat × Nat) :=
  [(1, 0, 0x7F), (2, 0x80, 0x7FF), (3, 0x800, 0xFFFF), (4, 0x10000, 0x10FFFF)].filterMap
    fun (length, low, high) =>
      let low := max low range.1
      let high := min high range.2
      if low ≤ high then some (length, low, high) else none

/-- Splits a range of codes of one length so that in every part each byte runs over a range of its
own; `level` bytes from the last are still to be aligned. -/
def aligned (length : Nat) : Nat → Nat → Nat → List (List ByteRange)
  | 0, low, high => [(encodeCode length low).zip (encodeCode length high)]
  | level + 1, low, high =>
    let span := Nat.pow 64 (level + 1)
    if low / span = high / span then aligned length level low high
    else
      let first := (low + span - 1) / span
      let last := (high + 1) / span
      (if low % span != 0 then aligned length level low (first * span - 1) else []) ++
        (if first < last then
          [(encodeCode length (first * span)).zip (encodeCode length (last * span - 1))] else []) ++
        (if (high + 1) % span != 0 then aligned length level (last * span) high else [])

def byteSequences (set : CodeSet) : List (List ByteRange) :=
  set.ranges.flatMap fun range => (CodeSet.withoutSurrogates range).flatMap fun part =>
    (byLength part).flatMap fun (length, low, high) => aligned length (length - 1) low high

abbrev ByteState := List (ByteRange × Nat)

def groupHeads : List (List ByteRange) → List (ByteRange × List (List ByteRange))
  | [] => []
  | [] :: rest => groupHeads rest
  | (head :: tail) :: rest =>
    match groupHeads rest with
    | (next, tails) :: more =>
      if next = head then (head, tail :: tails) :: more else (head, [tail]) :: (next, tails) :: more
    | [] => [(head, [tail])]

def shared (state : ByteState) (known : List ByteState) : Nat × List ByteState :=
  match known.reverse.idxOf? state with
  | some index => (index, known)
  | none => (known.length, state :: known)

def automaton : Nat → List (List ByteRange) → List ByteState → Nat × List ByteState
  | 0, _, known => (0, known)
  | depth + 1, sequences, known =>
    let (state, known) := (groupHeads sequences).foldl (fun (state, known) (head, tails) =>
      if tails.all List.isEmpty then ((head, 0) :: state, known)
      else
        let (target, known) := automaton depth tails known
        ((head, target + 1) :: state, known)) (([] : ByteState), known)
    shared state.reverse known

def stateRoom : Nat := 32

def branchRoom : Nat := 8

def CodeSet.room (set : CodeSet) : Nat :=
  if set.isAscii then
    if set.ranges.length ≤ 1 then stateRoom else stateRoom + branchRoom * set.ranges.length
  else
    let (_, states) := automaton 4 (byteSequences set) []
    states.foldl (fun room state =>
      room + stateRoom + (if state.length ≤ 1 then 0 else branchRoom * state.length)) stateRoom

namespace Expression

/-- Whether the expression matches nothing but the empty text. -/
def onlyEmpty : Expression → Bool
  | .empty => true
  | .set s => s.isEmpty
  | .condition _ => true
  | .sequence first second => first.onlyEmpty && second.onlyEmpty
  | .choice left right => left.onlyEmpty && right.onlyEmpty
  | .repetition body _ most => body.onlyEmpty || most == some 0
  | .capture body => body.onlyEmpty

def hasCount : Expression → Bool
  | .sequence first second => first.hasCount || second.hasCount
  | .choice left right => left.hasCount || right.hasCount
  | .repetition body least most => body.hasCount || 1 < least || 1 < most.getD 1
  | .capture body => body.hasCount
  | _ => false

def optionRoom : Nat := stateRoom + branchRoom

def room : Expression → Nat
  | .empty => stateRoom
  | .set s => CodeSet.room s
  | .condition _ => stateRoom
  | .sequence first second => first.room + second.room
  | .choice left right => left.room + right.room + optionRoom
  | .capture body => body.room + 2 * stateRoom
  | .repetition body least most =>
    let once := body.room
    let least := if body.onlyEmpty then min least 1 else least
    let most := if body.onlyEmpty then some (min (most.getD 1) 1) else most
    match most with
    | none => max least 1 * once + optionRoom
    | some 0 => stateRoom
    | some most => least * once + (most - least) * (once + optionRoom) + stateRoom

end Expression

def roomLimit : Nat := 10 * Nat.pow 2 20

/-- Whether an expression stays within the limit; one without counted repetitions always does. -/
def Expression.fits (e : Expression) : Bool := !e.hasCount || e.room ≤ roomLimit

end Pattern
end WireContract

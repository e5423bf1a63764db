namespace WireContract

structure CodeSet where
  ranges : List (Nat × Nat)
  deriving DecidableEq, Repr, Inhabited

namespace CodeSet

def lastCode : Nat := 0x10FFFF

/-- Joins ranges, sorted by their first code, that touch or overlap one another or the first range. -/
def mergeFrom (first : Nat × Nat) : List (Nat × Nat) → List (Nat × Nat)
  | [] => [first]
  | next :: rest =>
    if next.1 ≤ first.2 + 1 then mergeFrom (first.1, max first.2 next.2) rest
    else first :: mergeFrom next rest

def merge : List (Nat × Nat) → List (Nat × Nat)
  | [] => []
  | first :: rest => mergeFrom first rest

def ofRanges (ranges : List (Nat × Nat)) : CodeSet :=
  ⟨merge (ranges.mergeSort fun a b => a.1 ≤ b.1)⟩

def empty : CodeSet := ⟨[]⟩

def single (c : Char) : CodeSet := ⟨[(c.toNat, c.toNat)]⟩

def range (low high : Char) : CodeSet := ⟨[(low.toNat, high.toNat)]⟩

def all : CodeSet := ⟨[(0, 0xD7FF), (0xE000, lastCode)]⟩

def containsCode (set : CodeSet) (code : Nat) : Bool :=
  set.ranges.any fun (low, high) => low ≤ code && code ≤ high

def contains (set : CodeSet) (c : Char) : Bool := set.containsCode c.toNat

def union (a b : CodeSet) : CodeSet := ofRanges (a.ranges ++ b.ranges)

def unions (sets : List CodeSet) : CodeSet := ofRanges (sets.flatMap (·.ranges))

def gaps (start : Nat) : List (Nat × Nat) → List (Nat × Nat)
  | [] => if start ≤ lastCode then [(start, lastCode)] else []
  | (low, high) :: rest =>
    if start < low then (start, low - 1) :: gaps (high + 1) rest else gaps (high + 1) rest

def withoutSurrogates (range : Nat × Nat) : List (Nat × Nat) :=
  let (low, high) := range
  (if low < 0xD800 then [(low, min high 0xD7FF)] else []) ++
    (if 0xDFFF < high then [(max low 0xE000, high)] else [])

def complement (set : CodeSet) : CodeSet :=
  ⟨(gaps 0 (merge set.ranges)).flatMap withoutSurrogates⟩

def inter (a b : CodeSet) : CodeSet := (a.complement.union b.complement).complement

def diff (a b : CodeSet) : CodeSet := a.inter b.complement

def symmDiff (a b : CodeSet) : CodeSet := (a.union b).diff (a.inter b)

def isEmpty (set : CodeSet) : Bool := set.ranges.isEmpty

def isAscii (set : CodeSet) : Bool := set.ranges.all fun (_, high) => high < 128

structure RangeText where
  done : List (Nat × Nat)
  low : Option Nat
  code : Option Nat

namespace RangeText

def close (state : RangeText) : RangeText :=
  match state.low, state.code with
  | _, none => state
  | none, some code => ⟨(code, code) :: state.done, none, none⟩
  | some low, some code => ⟨(low, code) :: state.done, none, none⟩

def step (state : RangeText) (c : Char) : RangeText :=
  if '0' ≤ c ∧ c ≤ '9' then ⟨state.done, state.low, some (state.code.getD 0 * 16 + (c.toNat - 48))⟩
  else if 'A' ≤ c ∧ c ≤ 'F' then
    ⟨state.done, state.low, some (state.code.getD 0 * 16 + (c.toNat - 55))⟩
  else if c = '-' then ⟨state.done, state.code, none⟩
  else state.close

end RangeText

/-- The set that a list of hexadecimal codes and ranges spells, as in `41-5A 61-7A AA`. -/
def ofText (text : String) : CodeSet :=
  ⟨(text.foldl RangeText.step ⟨[], none, none⟩).close.done.reverse⟩

end CodeSet
end WireContract

namespace WireContract

structure Decimal where
  digits : Nat
  exponent : Int
  deriving DecidableEq, Repr

namespace Decimal

/-- A positive double `significand · 2 ^ scale`; `tight` when the double below is only half as far
as the one above. -/
structure Binary where
  significand : Nat
  scale : Int
  tight : Bool

def Binary.ofBits (bits : Nat) : Binary :=
  let field : Nat := bits / Nat.pow 2 52 % Nat.pow 2 11
  let fraction : Nat := bits % Nat.pow 2 52
  if field = 0 then ⟨fraction, -1074, false⟩
  else ⟨fraction + Nat.pow 2 52, (field : Int) - 1075, fraction == 0 && field != 1⟩

def width (n : Nat) : Nat := if n = 0 then 0 else (Nat.toDigits 10 n).length

def leading (num den : Nat) : Int :=
  if den ≤ num then (width (num / den) : Int) - 1
  else -(width ((den + num - 1) / num - 1) : Int)

def rescale (num den : Nat) (unit : Int) : Nat × Nat :=
  if 0 ≤ unit then (num, den * Nat.pow 10 unit.toNat) else (num * Nat.pow 10 (-unit).toNat, den)

/-- The nearest multiple of `10 ^ unit` strictly between `low / den` and `high / den` (or on an end,
if `closed`), all bounds around `value / den`; a tie goes to the even multiple. -/
def nearest? (value low high den : Nat) (closed : Bool) (unit : Int) : Option Nat :=
  let (v, d) := rescale value den unit
  let (l, _) := rescale low den unit
  let (h, _) := rescale high den unit
  let inside (n : Nat) : Bool :=
    if closed then decide (l ≤ n * d ∧ n * d ≤ h) else decide (l < n * d ∧ n * d < h)
  let under := v / d
  let next := under + 1
  match inside under && under != 0, inside next with
  | false, false => none
  | true, false => some under
  | false, true => some next
  | true, true =>
    let below := v - under * d
    let above := next * d - v
    if below < above then some under
    else if above < below then some next
    else if under % 2 = 0 then some under else some next

def trim : Nat → Nat → Int → Decimal
  | 0, digits, exponent => ⟨digits, exponent⟩
  | fuel + 1, digits, exponent =>
    if digits % 10 = 0 && digits != 0 then trim fuel (digits / 10) (exponent + 1)
    else ⟨digits, exponent⟩

/-- The fewest digits, and of those the nearest, that round to the positive double `b`. -/
def Binary.shortest (b : Binary) : Decimal :=
  let quarters := b.scale - 2
  let (factor, den) := if 0 ≤ quarters then (Nat.pow 2 quarters.toNat, 1) else (1, Nat.pow 2 (-quarters).toNat)
  let value := 4 * b.significand * factor
  let high := (4 * b.significand + 2) * factor
  let low := (4 * b.significand - (if b.tight then 1 else 2)) * factor
  let closed := b.significand % 2 == 0
  let top := leading value den
  let attempt (count : Nat) : Option Decimal :=
    let unit := top - count
    (nearest? value low high den closed unit).map fun digits => trim 20 digits unit
  ((List.range 17).findSome? attempt).getD ⟨value / den, 0⟩

end Decimal
end WireContract

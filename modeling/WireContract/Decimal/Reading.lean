/-!
Doubles from decimal text: the nearest double to a decimal, and the quicker scaled reading that data
files use, which keeps only as many digits as fit 64 bits.
-/

namespace WireContract
namespace Decimal

def isDigit (c : Char) : Bool := decide ('0' ≤ c) && decide (c ≤ '9')

def digitValue (c : Char) : Nat := c.toNat - '0'.toNat

def natOfDigits (digits : List Char) : Nat :=
  digits.foldl (fun n c => n * 10 + digitValue c) 0

def infinity : Float := 1.0 / 0.0

def nearestFloat (digits : Nat) (exponent : Int) : Float :=
  Float.ofScientific digits (decide (exponent < 0)) exponent.natAbs

def tenTo (n : Nat) : Float := Float.ofScientific 1 false n

/-- `digits · 10 ^ exponent` by one rounding of `digits` and then one of each scaling step; none if
the magnitude overflows. -/
def scaledFloat? (digits : UInt64) (exponent : Int) : Option Float :=
  let finite (x : Float) : Option Float := if x.isInf then none else some x
  let start := digits.toFloat
  if digits = 0 then some start
  else if 308 < exponent then none
  else if 0 ≤ exponent then finite (start * tenTo exponent.toNat)
  else if -308 ≤ exponent then some (start / tenTo (-exponent).toNat)
  else if -616 ≤ exponent then some (start / tenTo 308 / tenTo (-exponent - 308).toNat)
  else some 0

end Decimal
end WireContract

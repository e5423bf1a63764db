import WireContract.Decimal.Shortest

namespace WireContract

structure FloatLayout where
  leastPositional : Int
  greatestPositional : Int
  plusSign : Bool
  notANumber : String
  infinite : String

namespace FloatLayout

def digitText (n : Nat) : List Char := Nat.toDigits 10 n

/-- Digits with a point after the one of weight `10 ^ exponent` down to units, zeros filled in. -/
def positional (digits : List Char) (leading : Int) : List Char :=
  if leading < 0 then
    '0' :: '.' :: (List.replicate ((-leading).toNat - 1) '0' ++ digits)
  else
    let whole := leading.toNat + 1
    if digits.length ≤ whole then
      digits ++ List.replicate (whole - digits.length) '0' ++ ['.', '0']
    else digits.take whole ++ '.' :: digits.drop whole

def scientific (layout : FloatLayout) (digits : List Char) (leading : Int) : List Char :=
  let mantissa := match digits with
    | [] => ['0']
    | [digit] => [digit]
    | digit :: rest => digit :: '.' :: rest
  let sign := if leading < 0 then ['-'] else if layout.plusSign then ['+'] else []
  mantissa ++ 'e' :: (sign ++ digitText leading.natAbs)

def magnitude (layout : FloatLayout) (d : Decimal) : List Char :=
  let digits := digitText d.digits
  let leading := d.exponent + (digits.length : Int) - 1
  if layout.leastPositional ≤ leading ∧ leading ≤ layout.greatestPositional then
    positional digits leading
  else scientific layout digits leading

def text (layout : FloatLayout) (x : Float) : String :=
  let bits := x.toBits.toNat
  let sign := if Nat.pow 2 63 ≤ bits then ['-'] else []
  let rest := bits % Nat.pow 2 63
  if x.isNaN then layout.notANumber
  else if rest = 2047 * Nat.pow 2 52 then String.ofList (sign ++ layout.infinite.toList)
  else if rest = 0 then String.ofList (sign ++ ['0', '.', '0'])
  else String.ofList (sign ++ layout.magnitude (Decimal.Binary.ofBits rest).shortest)

/-- Data files: positional from `10 ^ -5` up to `10 ^ 16`, a signed exponent elsewhere. -/
def interchange : FloatLayout := ⟨-5, 15, true, "null", "null"⟩

/-- Debug texts: positional from `10 ^ -4` up to `10 ^ 16`, no plus sign. -/
def debug : FloatLayout := ⟨-4, 15, false, "NaN", "inf"⟩

end FloatLayout
end WireContract

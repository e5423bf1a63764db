import WireContract.Text.Basic
import WireContract.Json.Basic
import WireContract.Decimal.Reading

namespace WireContract

/-- Seconds since 1970 in UTC, and nanoseconds; a leap second is the second before it with more than
`10 ^ 9` of them. -/
structure Instant where
  seconds : Int
  nanos : Nat
  deriving DecidableEq, Repr

namespace Instant

def before (a b : Instant) : Bool :=
  a.seconds < b.seconds || (a.seconds == b.seconds && a.nanos < b.nanos)

structure Date where
  year : Int
  month : Nat
  day : Nat

structure TimeOfDay where
  hour : Nat
  minute : Nat
  second : Nat
  nanos : Nat

def isLeap (year : Int) : Bool := year % 4 == 0 && (year % 100 != 0 || year % 400 == 0)

def daysIn (year : Int) (month : Nat) : Nat :=
  match month with
  | 2 => if isLeap year then 29 else 28
  | 4 => 30
  | 6 => 30
  | 9 => 30
  | 11 => 30
  | _ => 31

def leastYear : Int := -262143

def greatestYear : Int := 262142

def Date.exists (date : Date) : Bool :=
  leastYear ≤ date.year && date.year ≤ greatestYear && 1 ≤ date.month && date.month ≤ 12 &&
    1 ≤ date.day && date.day ≤ daysIn date.year date.month

/-- Days before the first of March of a year, counted from the year 0. -/
def daysToMarch (year : Int) : Int := 365 * year + year / 4 - year / 100 + year / 400

def Date.days (date : Date) : Int :=
  let early := date.month ≤ 2
  let year := if early then date.year - 1 else date.year
  let month : Int := if early then date.month + 9 else date.month - 3
  daysToMarch year + (153 * month + 2) / 5 + date.day - 1 - 719468

def TimeOfDay.exists (time : TimeOfDay) : Bool :=
  time.hour ≤ 23 && time.minute ≤ 59 && time.second ≤ 60

def of? (date : Date) (time : TimeOfDay) (offset : Int) : Option Instant :=
  if !date.exists || !time.exists then none
  else
    let leap := time.second == 60
    let second := if leap then 59 else time.second
    let ofDay : Int := time.hour * 3600 + time.minute * 60 + second
    some ⟨date.days * 86400 + ofDay - offset, if leap then time.nanos + 1000000000 else time.nanos⟩

def number? (least most : Nat) (text : List Char) : Option (Nat × List Char) :=
  let digits := (text.take most).takeWhile Decimal.isDigit
  if digits.length < least then none
  else
    let value := Decimal.natOfDigits digits
    if value < Nat.pow 2 63 then some (value, text.drop digits.length) else none

def mark? (mark : Char) (text : List Char) : Option (List Char) :=
  match text with
  | c :: rest => if c = mark then some rest else none
  | [] => none

/-- A fraction of a second after its point; digits after the ninth do not count. -/
def fraction? (text : List Char) : Option (Nat × List Char) :=
  (number? 1 9 text).map fun (value, rest) =>
    let digits := text.length - rest.length
    (value * Nat.pow 10 (9 - digits), rest.dropWhile Decimal.isDigit)

/-- An offset from UTC: `Z`, or a sign with hours and minutes, at most 23:59. -/
def offset? (text : List Char) : Option (Int × List Char) :=
  match text with
  | [] => none
  | sign :: rest =>
    if sign = 'Z' ∨ sign = 'z' then some (0, rest)
    else if sign = '+' ∨ sign = '-' ∨ sign = '\u2212' then do
      let (hours, rest) ← number? 2 2 rest
      let rest ← mark? ':' rest
      let (minutes, rest) ← number? 2 2 rest
      if 23 < hours || 59 < minutes then none
      else
        let size : Int := hours * 3600 + minutes * 60
        some (if sign = '+' then size else -size, rest)
    else none

def ofRfc3339? (text : List Char) : Option Instant := do
  let (year, text) ← number? 4 4 text
  let text ← mark? '-' text
  let (month, text) ← number? 2 2 text
  let text ← mark? '-' text
  let (day, text) ← number? 2 2 text
  let text ← match text with
    | c :: rest => if c = 'T' ∨ c = 't' ∨ c = ' ' then some rest else none
    | [] => none
  let (hour, text) ← number? 2 2 text
  let text ← mark? ':' text
  let (minute, text) ← number? 2 2 text
  let text ← mark? ':' text
  let (second, text) ← number? 2 2 text
  let (nanos, text) ← match text with
    | '.' :: rest => fraction? rest
    | rest => some (0, rest)
  let (offset, text) ← offset? text
  if text.isEmpty then of? ⟨year, month, day⟩ ⟨hour, minute, second, nanos⟩ offset else none

def loose? (most : Nat) (text : List Char) : Option (Nat × List Char) :=
  number? 1 most (Text.trimStart text)

/-- A year: up to four digits, or any number of them after a sign. -/
def year? (text : List Char) : Option (Int × List Char) :=
  match Text.trimStart text with
  | '-' :: rest => (number? 1 rest.length rest).map fun (year, rest) => (-(year : Int), rest)
  | '+' :: rest => (number? 1 rest.length rest).map fun (year, rest) => ((year : Int), rest)
  | rest => (number? 1 4 rest).map fun (year, rest) => ((year : Int), rest)

def looseDate? (text : List Char) : Option (Date × List Char) := do
  let (year, text) ← year? text
  let text ← mark? '-' text
  let (month, text) ← loose? 2 text
  let text ← mark? '-' text
  let (day, text) ← loose? 2 text
  return (⟨year, month, day⟩, text)

def looseTime? (fractions : Bool) (text : List Char) : Option (TimeOfDay × List Char) := do
  let (hour, text) ← loose? 2 text
  let text ← mark? ':' text
  let (minute, text) ← loose? 2 text
  let text ← mark? ':' text
  let (second, text) ← loose? 2 text
  let (nanos, text) ← match fractions, text with
    | true, '.' :: rest => fraction? rest
    | _, rest => some (0, rest)
  return (⟨hour, minute, second, nanos⟩, text)

def ofDateTime? (gap : List Char → Option (List Char)) (fractions : Bool) (text : List Char) :
    Option Instant := do
  let (date, text) ← looseDate? text
  let text ← gap text
  let (time, text) ← looseTime? fractions text
  if text.isEmpty then of? date time 0 else none

def blanks? (text : List Char) : Option (List Char) := some (Text.trimStart text)

def ofText? (text : String) : Option Instant :=
  let text := Text.trim text.toList
  (ofRfc3339? text).or <|
    (ofDateTime? blanks? false text).or <|
      (ofDateTime? (mark? 'T') false text).or <|
        (ofDateTime? blanks? true text).or <| do
          let (date, rest) ← looseDate? text
          if rest.isEmpty then of? date ⟨0, 0, 0, 0⟩ 0 else none

def leastSeconds : Int := Date.days ⟨leastYear, 1, 1⟩ * 86400

def greatestSeconds : Int := Date.days ⟨greatestYear, 12, 31⟩ * 86400 + 86399

def ofMillis? (millis : Int) : Option Instant :=
  let seconds := millis / 1000
  if leastSeconds ≤ seconds && seconds ≤ greatestSeconds then
    some ⟨seconds, (millis % 1000).toNat * 1000000⟩
  else none

def wholePart (x : Float) : Int := x.toInt64.toInt

def ofJson? : Json → Option Instant
  | .string text => ofText? text
  | .number n => ofMillis? (n.signed?.getD (wholePart n.toFloat))
  | _ => none

end Instant
end WireContract

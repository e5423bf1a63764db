import WireContract.Rules.Check
import WireContract.Pattern.Matching
import WireContract.Text.LeadingNumber

/-!
Lengths, bounds, `pattern` and `enum`. After the lengths a blank value is accepted outright, so that an
optional field sent empty never reaches the other rules.
-/

namespace WireContract
namespace Basic

def longerThan (limit : Option Nat) (value : Json) : Option Outcome :=
  match limit, value.length? with
  | some limit, some length => failIf (limit < length)
  | _, _ => none

def shorterThan (limit : Option Nat) (value : Json) : Option Outcome :=
  match limit, value.length? with
  | some limit, some length => failIf (length < limit)
  | _, _ => none

def maxLength : Condition := fun check => longerThan check.rules.maxLength check.value

def minLength : Condition := fun check => shorterThan check.rules.minLength check.value

def xMaxLength : Condition := fun check => longerThan check.rules.xMaxLength check.value

def xMinLength : Condition := fun check => shorterThan check.rules.xMinLength check.value

def noValue : Condition := fun check => if check.value.isBlank then some .pass else none

/-- The number that a value is, or that a text starts with. -/
def numberOf? : Json → Option Float
  | .number n => some n.toFloat
  | .string s => Text.leadingNumber? s
  | _ => none

def maximum : Condition := fun check =>
  match check.rules.maximum, numberOf? check.value with
  | some bound, some x => failIf (bound < x)
  | _, _ => none

def minimum : Condition := fun check =>
  match check.rules.minimum, numberOf? check.value with
  | some bound, some x => failIf (x < bound)
  | _, _ => none

def textOf? : Json → Option String
  | .string s => some s
  | .number n => some n.text
  | .bool b => some (if b then "true" else "false")
  | _ => none

/-- A pattern that cannot be read rejects every text. -/
def pattern : Condition := fun check =>
  match check.rules.pattern, textOf? check.value with
  | some pattern, some text => failIf (Pattern.search? pattern text != some true)
  | _, _ => none

/-- Whether a value is one that is allowed; numbers compare as doubles. -/
def allows (allowed value : Json) : Bool :=
  match allowed, value with
  | .number a, .number b => a.toFloat == b.toFloat
  | _, _ => allowed.same value

def oneOf : Condition := fun check =>
  match check.rules.oneOf with
  | some allowed => failIf (!allowed.any fun candidate => allows candidate check.value)
  | none => none

def conditions : List Condition :=
  [maxLength, minLength, xMaxLength, xMinLength, noValue, maximum, minimum, pattern, oneOf]

def opinion : Condition := firstOpinion conditions

end Basic
end WireContract

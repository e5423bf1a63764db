import WireContract.RuleSet
import WireContract.Token.Timestamp

namespace WireContract

inductive Outcome
  | pass
  | fail
  | unauthorized
  deriving DecidableEq, Repr

namespace Outcome

def name : Outcome → String
  | .pass => "pass"
  | .fail => "fail"
  | .unauthorized => "unauthorized"

def ofName? (name : String) : Option Outcome :=
  [Outcome.pass, .fail, .unauthorized].find? fun outcome => outcome.name == name

end Outcome

/-- A value to be checked: its rules, the lower-case header name if it comes from a header, and the
time of the check. -/
structure Check where
  rules : RuleSet
  value : Json
  key : Option String
  now : Instant

abbrev Condition := Check → Option Outcome

def firstOpinion (conditions : List Condition) (check : Check) : Option Outcome :=
  conditions.findSome? fun condition => condition check

def failIf (rejected : Bool) : Option Outcome := if rejected then some .fail else none

namespace Json

/-- Whether a value counts as no value for the rules after the lengths. -/
def isBlank : Json → Bool
  | .null => true
  | .bool b => !b
  | .string s => s.isEmpty
  | _ => false

def length? : Json → Option Nat
  | .string s => some s.length
  | .array items => some items.length
  | _ => none

end Json
end WireContract

import WireContract.CheckModel
import WireContract.Lifecycle
import WireContract.Request.Basic
import WireContract.Request.BodyPath

/-!
Validation of requests against check models, section by section up to the first rejection: query, path,
header, body. Only a header can be answered with anything but a failure.
-/

namespace WireContract

abbrev Checker (σ : Type) := Json → RuleSet → Option String → Chain σ Outcome

namespace Checker

variable {σ : Type} (checker : Checker σ)

def anyFails (rules : RuleSet) : List Json → Chain σ Bool
  | [] => pure false
  | value :: rest => do
    let outcome ← checker value rules none
    if outcome == .fail then return true
    anyFails rules rest

def fields (valuesAt : String → List Json) : List (String × RuleSet) → Chain σ (Option Outcome)
  | [] => pure none
  | (path, rules) :: rest => do
    let failed ← checker.anyFails rules (valuesAt path)
    if failed then return some .fail
    fields valuesAt rest

def headers (request : Request) : List (String × RuleSet) → Chain σ (Option Outcome)
  | [] => pure none
  | (name, rules) :: rest => do
    let name := Request.headerName name
    let outcome ← checker ((request.headers.get? name).getD .null) rules (some name)
    if outcome != .pass then return some outcome
    headers request rest

def entriesOf (fields : Option (Dict RuleSet)) : List (String × RuleSet) :=
  (fields.map Dict.entries).getD []

def firstVerdict : List (Chain σ (Option Outcome)) → Chain σ Outcome
  | [] => pure .pass
  | step :: rest => do
    match ← step with
    | some outcome => return outcome
    | none => firstVerdict rest

/-- The values that a request holds in a keyed section, `null` for a missing key. -/
def valueIn (values : Dict Json) (key : String) : List Json := [(values.get? key).getD .null]

/-- Checks every field that a model declares; a model without fields accepts every request. -/
def request (model : CheckModel) (request : Request) : Chain σ Outcome :=
  if model.isEmpty then pure .pass
  else
    firstVerdict
      [ checker.fields (valueIn request.query) (entriesOf model.query),
        checker.fields (valueIn request.params) (entriesOf model.path),
        checker.headers request (entriesOf model.header),
        checker.fields (fun path => BodyPath.resolve (BodyPath.segments path) request.body)
          (entriesOf model.body) ]

end Checker

namespace Lifecycle

variable {σ : Type}

def validateWith (validators : List (Subscription (Validator σ))) (now : Instant) (model : CheckModel)
    (request : Request) : Chain σ Outcome :=
  Checker.request (fun value rules key => check validators now value rules key) model request

def validate (lifecycle : Lifecycle Unit) (now : Instant) (model : CheckModel) (request : Request) :
    Outcome :=
  ((lifecycle.run fun validators => validateWith validators now model request).run ()).1.1

end Lifecycle
end WireContract

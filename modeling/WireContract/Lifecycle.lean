import WireContract.Rules.Parser

/-!
Lifecycles: one channel of parsers that compile check models and one of validators that check values.
The built-in validators come in the order required, token, array, basic; others follow them and see
only what those have no opinion on.
-/

namespace WireContract

structure Lifecycle (σ : Type) where
  parsers : Channel (Parser σ)
  validators : Channel (Validator σ)

namespace Lifecycle

variable {σ : Type}

def empty : Lifecycle σ := ⟨.new .compile, .new .check⟩

def register (lifecycle : Lifecycle σ) (validator : Validator σ) (once : Bool) : Lifecycle σ :=
  { lifecycle with validators := lifecycle.validators.add validator once }

def registerParser (lifecycle : Lifecycle σ) (parser : Parser σ) (once : Bool) : Lifecycle σ :=
  { lifecycle with parsers := lifecycle.parsers.add parser once }

def defaultTokenHeader : String := "x-auth-token"

def withHeader (header : String) : Lifecycle σ :=
  ((((empty.register .required false).register (.token header) false).register .array false).register
    .basic false).registerParser .basic false

def default : Lifecycle σ := withHeader defaultTokenHeader

/-- Runs a value through a chain of validators; one on which none has an opinion passes. -/
def check (validators : List (Subscription (Validator σ))) (now : Instant) (value : Json)
    (rules : RuleSet) (key : Option String) : Chain σ Outcome := do
  let opinion ← emitFrom claim (fun validator : Validator σ =>
    validator.opinion ⟨rules, value, key, now⟩ fun part _ rules => check validators now part rules none)
    0 validators
  return opinion.getD .pass
termination_by sizeOf value

def run {α : Type} (lifecycle : Lifecycle σ)
    (action : List (Subscription (Validator σ)) → Chain σ α) : StateM σ (α × Lifecycle σ) := do
  let (result, spent) ← (action lifecycle.validators.subscriptions).run lifecycle.validators.spent
  return (result, { lifecycle with validators := { lifecycle.validators with spent := spent } })

/-- The outcome of one check, for a lifecycle that takes no notes. -/
def outcome (lifecycle : Lifecycle Unit) (now : Instant) (value : Json) (rules : RuleSet)
    (key : Option String) : Outcome :=
  ((lifecycle.run fun validators => check validators now value rules key).run ()).1.1

def compileField (parsers : List (Subscription (Parser σ))) (reached : Reached) :
    StateT CheckModel (Chain σ) Unit := do
  let _ ← emitFrom (fun position => StateT.lift (claim position))
    (fun parser : Parser σ => parser.fold reached) 0 parsers

def compile (lifecycle : Lifecycle σ) (model : CheckModel) (reached : Reached) :
    StateM σ (CheckModel × Lifecycle σ) := do
  let ((_, model), spent) ←
    ((compileField lifecycle.parsers.subscriptions reached).run model).run lifecycle.parsers.spent
  return (model, { lifecycle with parsers := { lifecycle.parsers with spent := spent } })

def debug (lifecycle : Lifecycle σ) : String :=
  "Lifecycle \x7b compile: " ++ lifecycle.parsers.debug ++ ", check: " ++ lifecycle.validators.debug ++
    " \x7d"

end Lifecycle
end WireContract

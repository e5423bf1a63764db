import WireContract.CheckModel
import WireContract.Rules.Validator

namespace WireContract

structure Reached where
  location : Location
  path : String
  keywords : RuleSet

structure Parser (σ : Type) where
  name : String
  fold : Reached → StateT CheckModel (Chain σ) (Option Unit)

namespace Parser

variable {σ : Type}

def copied : List String :=
  ["x-maxLength", "x-minLength", "minLength", "maxLength", "maximum", "minimum", "maxItems", "minItems",
    "pattern", "enum"]

def demand (model : CheckModel) (reached : Reached) : CheckModel :=
  if reached.keywords.isRequired then
    model.update reached.location reached.path fun old => { old with required := some true }
  else model

/-- Copies one keyword of a field; one that is absent makes no entry. -/
def copy (reached : Reached) (model : CheckModel) (name : String) : CheckModel :=
  model.extendAt reached.location reached.path (reached.keywords.onlyNamed name)

def transcribe (model : CheckModel) (reached : Reached) : CheckModel :=
  copied.foldl (copy reached) (demand model reached)

def basic : Parser σ :=
  ⟨"basic", fun reached => do
    modify fun model => transcribe model reached
    return none⟩

/-- The keywords that are recorded: all that are present, but `required` only when it is on. -/
def recorded (keywords : RuleSet) : RuleSet :=
  { keywords with required := if keywords.isRequired then some true else none }

/-- Records all keywords of a field at once; a field without any gets no entry. This is what `transcribe`
comes to. -/
def record (model : CheckModel) (reached : Reached) : CheckModel :=
  let rules := recorded reached.keywords
  if rules.isEmpty then model
  else model.update reached.location reached.path fun old => old.extend rules

end Parser
end WireContract

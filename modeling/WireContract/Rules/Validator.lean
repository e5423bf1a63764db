import WireContract.Channel
import WireContract.Rules.Basic
import WireContract.Token.Token

namespace WireContract

/-- Computations of a chain: subscriptions may be used up, and notes of type `σ` taken. -/
abbrev Chain (σ : Type) := Spending (StateM σ)

abbrev Recheck (σ : Type) (value : Json) :=
  (part : Json) → sizeOf part < sizeOf value → RuleSet → Chain σ Outcome

structure Validator (σ : Type) where
  name : String
  opinion : (check : Check) → Recheck σ check.value → Chain σ (Option Outcome)

namespace Validator

variable {σ : Type}

def ofCondition (name : String) (condition : Condition) : Validator σ :=
  ⟨name, fun check _ => pure (condition check)⟩

/-- Rejects a missing value of a required field; blank values are not missing. -/
def requiredOpinion : Condition := fun check =>
  failIf (check.rules.isRequired && check.value.isNull)

def required : Validator σ := ofCondition "required" requiredOpinion

/-- Looks at required values from the header called `header`, and has an opinion on bad tokens only. -/
def tokenOpinion (header : String) : Condition := fun check =>
  if !check.rules.isRequired || check.value.isNull || check.key != some header then none
  else
    match check.value with
    | .string raw => if Token.isValid raw check.now then none else some .unauthorized
    | _ => some .unauthorized

def tokenHeader (header : String) : String := Text.asciiLower header

def token (header : String) : Validator σ :=
  ofCondition "token" (tokenOpinion (tokenHeader header))

def anyFails {value : Json} (rules : RuleSet) (recheck : Recheck σ value) (items : List Json)
    (smaller : ∀ item ∈ items, sizeOf item < sizeOf value) : Chain σ Bool :=
  match items with
  | [] => pure false
  | item :: rest => do
    let outcome ← recheck item (smaller item (.head _)) rules
    if outcome == .fail then pure true
    else anyFails rules recheck rest fun item member => smaller item (.tail _ member)

def countOpinion (rules : RuleSet) (count : Nat) : Option Outcome :=
  (failIf (rules.maxItems.any (· < count))).or (failIf (rules.minItems.any (count < ·)))

/-- Bounds the number of items of an array, then checks each of them with the same rules. -/
def array : Validator σ :=
  ⟨"array", fun check recheck =>
    match shape : check.value with
    | .array items =>
      match countOpinion check.rules items.length with
      | some outcome => pure (some outcome)
      | none => do
        let failed ← anyFails check.rules recheck items fun item member => by
          rw [shape]; exact Json.sizeOf_lt_of_mem_array member
        return failIf failed
    | _ => pure none⟩

def basic : Validator σ := ofCondition "basic" Basic.opinion

end Validator
end WireContract

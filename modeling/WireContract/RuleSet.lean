import WireContract.Decode.Reading

namespace WireContract

inductive Rule
  | required
  | maxLength
  | minLength
  | xMaxLength
  | xMinLength
  | maximum
  | minimum
  | pattern
  | oneOf
  | maxItems
  | minItems
  deriving DecidableEq, Repr

namespace Rule

def all : List Rule :=
  [.required, .maxLength, .minLength, .xMaxLength, .xMinLength, .maximum, .minimum, .pattern, .oneOf,
    .maxItems, .minItems]

def name : Rule → String
  | .required => "required"
  | .maxLength => "maxLength"
  | .minLength => "minLength"
  | .xMaxLength => "x-maxLength"
  | .xMinLength => "x-minLength"
  | .maximum => "maximum"
  | .minimum => "minimum"
  | .pattern => "pattern"
  | .oneOf => "enum"
  | .maxItems => "maxItems"
  | .minItems => "minItems"

def ofName? (name : String) : Option Rule := all.find? fun rule => rule.name == name

theorem ofName?_name (rule : Rule) : ofName? rule.name = some rule := by
  cases rule <;> rfl

theorem mem_all (rule : Rule) : rule ∈ all := by cases rule <;> decide

end Rule

structure RuleSet where
  required : Option Bool
  maxLength : Option Nat
  minLength : Option Nat
  xMaxLength : Option Nat
  xMinLength : Option Nat
  maximum : Option Float
  minimum : Option Float
  pattern : Option String
  oneOf : Option (List Json)
  maxItems : Option Nat
  minItems : Option Nat

namespace RuleSet

def empty : RuleSet := ⟨none, none, none, none, none, none, none, none, none, none, none⟩

instance : EmptyCollection RuleSet := ⟨empty⟩

instance : Inhabited RuleSet := ⟨empty⟩

def has (rules : RuleSet) : Rule → Bool
  | .required => rules.required.isSome
  | .maxLength => rules.maxLength.isSome
  | .minLength => rules.minLength.isSome
  | .xMaxLength => rules.xMaxLength.isSome
  | .xMinLength => rules.xMinLength.isSome
  | .maximum => rules.maximum.isSome
  | .minimum => rules.minimum.isSome
  | .pattern => rules.pattern.isSome
  | .oneOf => rules.oneOf.isSome
  | .maxItems => rules.maxItems.isSome
  | .minItems => rules.minItems.isSome

def keys (rules : RuleSet) : List Rule := Rule.all.filter rules.has

def restrict (rules : RuleSet) (keep : Rule → Bool) : RuleSet where
  required := if keep .required then rules.required else none
  maxLength := if keep .maxLength then rules.maxLength else none
  minLength := if keep .minLength then rules.minLength else none
  xMaxLength := if keep .xMaxLength then rules.xMaxLength else none
  xMinLength := if keep .xMinLength then rules.xMinLength else none
  maximum := if keep .maximum then rules.maximum else none
  minimum := if keep .minimum then rules.minimum else none
  pattern := if keep .pattern then rules.pattern else none
  oneOf := if keep .oneOf then rules.oneOf else none
  maxItems := if keep .maxItems then rules.maxItems else none
  minItems := if keep .minItems then rules.minItems else none

def only (rules : RuleSet) (rule : Rule) : RuleSet := rules.restrict (· == rule)

def onlyNamed (rules : RuleSet) (name : String) : RuleSet :=
  match Rule.ofName? name with
  | some rule => rules.only rule
  | none => empty

/-- The set with the rules of `other` written over its own. -/
def extend (rules other : RuleSet) : RuleSet where
  required := other.required.or rules.required
  maxLength := other.maxLength.or rules.maxLength
  minLength := other.minLength.or rules.minLength
  xMaxLength := other.xMaxLength.or rules.xMaxLength
  xMinLength := other.xMinLength.or rules.xMinLength
  maximum := other.maximum.or rules.maximum
  minimum := other.minimum.or rules.minimum
  pattern := other.pattern.or rules.pattern
  oneOf := other.oneOf.or rules.oneOf
  maxItems := other.maxItems.or rules.maxItems
  minItems := other.minItems.or rules.minItems

def isEmpty (rules : RuleSet) : Bool := rules.keys.isEmpty

def isRequired (rules : RuleSet) : Bool := rules.required == some true

theorem has_only (rules : RuleSet) (rule other : Rule) :
    (rules.only rule).has other = (rules.has other && other == rule) := by
  cases rule <;> cases other <;> simp [only, restrict, has]

theorem onlyNamed_name (rules : RuleSet) (rule : Rule) :
    rules.onlyNamed rule.name = rules.only rule := by
  rw [onlyNamed, Rule.ofName?_name]

theorem has_extend (rules other : RuleSet) (rule : Rule) :
    (rules.extend other).has rule = (rules.has rule || other.has rule) := by
  cases rule <;> simp [extend, has, Bool.or_comm]

theorem extend_empty (rules : RuleSet) : rules.extend empty = rules := by
  simp [extend, empty]

theorem empty_extend (rules : RuleSet) : empty.extend rules = rules := by
  simp [extend, empty]

theorem extend_assoc (first second third : RuleSet) :
    (first.extend second).extend third = first.extend (second.extend third) := by
  simp [extend, Option.or_assoc]

theorem extend_self (rules : RuleSet) : rules.extend rules = rules := by
  simp [extend]

theorem mem_keys {rules : RuleSet} {rule : Rule} : rule ∈ rules.keys ↔ rules.has rule = true := by
  simp [keys, Rule.mem_all]

def members (rules : RuleSet) : List (String × Json) :=
  [ rules.required.map fun b => (Rule.required.name, .bool b),
    rules.maxLength.map fun n => (Rule.maxLength.name, Json.ofNat n),
    rules.minLength.map fun n => (Rule.minLength.name, Json.ofNat n),
    rules.xMaxLength.map fun n => (Rule.xMaxLength.name, Json.ofNat n),
    rules.xMinLength.map fun n => (Rule.xMinLength.name, Json.ofNat n),
    rules.maximum.map fun x => (Rule.maximum.name, Json.ofFloat x),
    rules.minimum.map fun x => (Rule.minimum.name, Json.ofFloat x),
    rules.pattern.map fun s => (Rule.pattern.name, .string s),
    rules.oneOf.map fun values => (Rule.oneOf.name, .array values),
    rules.maxItems.map fun n => (Rule.maxItems.name, Json.ofNat n),
    rules.minItems.map fun n => (Rule.minItems.name, Json.ofNat n) ].filterMap id

def encode (rules : RuleSet) : Json := .object (Dict.ofList rules.members).entries

open Source in
def decode (source : Source) : Option RuleSet :=
  match fields? (Rule.all.map Rule.name) source with
  | some [required, maxLength, minLength, xMaxLength, xMinLength, maximum, minimum, pattern, oneOf,
      maxItems, minItems] => do
    let required ← given? bool? required
    let maxLength ← given? natural? maxLength
    let minLength ← given? natural? minLength
    let xMaxLength ← given? natural? xMaxLength
    let xMinLength ← given? natural? xMinLength
    let maximum ← given? float? maximum
    let minimum ← given? float? minimum
    let pattern ← given? text? pattern
    let oneOf ← given? (list? untyped?) oneOf
    let maxItems ← given? natural? maxItems
    let minItems ← given? natural? minItems
    return ⟨required, maxLength, minLength, xMaxLength, xMinLength, maximum, minimum, pattern, oneOf,
      maxItems, minItems⟩
  | _ => none

end RuleSet
end WireContract

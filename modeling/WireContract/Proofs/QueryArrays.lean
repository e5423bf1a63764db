import WireContract.Proofs.Acceptance
import WireContract.Proofs.Compilation

namespace WireContract

namespace RuleSet

def ofCounts (most least : Option Nat) : RuleSet := { empty with maxItems := most, minItems := least }

end RuleSet

namespace SchemaNode

theorem keywords_overlay_of_counts {array items : SchemaNode} {most least : Option Nat}
    (counts : array.rules = .ofCounts most least) (noMost : items.rules.maxItems = none)
    (noLeast : items.rules.minItems = none) (optional : array.isRequired = false)
    (optionalItems : items.isRequired = false) :
    (array.overlay items).keywords false =
      { items.keywords false with maxItems := most, minItems := least } := by
  have required : (array.overlay items).isRequired = false := by
    simp only [isRequired, overlay] at optional optionalItems ⊢
    cases own : items.required with
    | none => simpa [own] using optional
    | some required => simpa [own] using optionalItems
  have rules : (array.overlay items).rules =
      { items.rules with maxItems := most, minItems := least } := by
    simp [overlay, counts, RuleSet.extend, RuleSet.ofCounts, RuleSet.empty, noMost, noLeast]
  simp [keywords, required, optionalItems, rules]

theorem path_of_queryArray {parameter : SchemaNode} {path : String}
    (place : parameter.place? = some (.query, path)) (isArray : parameter.isArray = true) :
    ∃ name, parameter.name = some name ∧ path = BodyPath.items name := by
  simp only [place?, Option.bind_eq_bind, Option.bind_eq_some_iff, Option.pure_def, Option.some.injEq,
    Prod.mk.injEq] at place
  obtain ⟨location, _, name, isName, rfl, rfl⟩ := place
  exact ⟨name, isName, by simp [isArray]⟩

end SchemaNode

namespace Compiler

theorem rulesAt_queryArray (header : String) (definitions : Definitions)
    {parameter items : SchemaNode} {path : String}
    (place : parameter.place? = some (.query, path)) (isArray : parameter.isArray = true)
    (isItems : parameter.items = some items) :
    (Compiler.parameter ⟨definitions, (Lifecycle.withHeader header).folding⟩ ∅ parameter).rulesAt
      .query path = (parameter.overlay items).keywords false := by
  obtain ⟨name, _, isPath⟩ := SchemaNode.path_of_queryArray place isArray
  have field : path ≠ "" := by simp [isPath, BodyPath.items, BodyPath.arrayMark]
  have reached : parameter.reached definitions =
      [⟨.query, path, (parameter.overlay items).keywords false⟩] := by
    simp [SchemaNode.reached, place, SchemaNode.steps, isItems, isArray, Walk.reach, field,
      WalkStep.field?]
  have noRules : (∅ : CheckModel).rulesAt .query path = ∅ := rfl
  have here (keywords : RuleSet) : Reached.isAt .query path ⟨.query, path, keywords⟩ = true := by
    simp [Reached.isAt]
  rw [Compiler.parameter, reached, Lifecycle.folding_withHeader, CheckModel.rulesAt_foldl_record, noRules,
    Reached.gather, List.filter_cons_of_pos (here _), List.filter_nil, List.foldl_cons, List.foldl_nil,
    SchemaNode.recorded_keywords]
  exact RuleSet.empty_extend _

end Compiler

namespace Lifecycle

/-- The rules of the array hold of the number of values, and those for its items of every value. -/
def AcceptsApart (lifecycle : Lifecycle Unit) (now : Instant) (array items : SchemaNode)
    (values : List Json) : Prop :=
  array.rules.AllowsCount values.length ∧
    ∀ value ∈ values, lifecycle.Accepts now value (items.keywords false)

theorem allowsWhole_of_counts (items : SchemaNode) (most least : Option Nat) (values : List Json) :
    RuleSet.AllowsWhole { items.keywords false with maxItems := most, minItems := least } values ↔
      items.rules.AllowsWhole values := by
  constructor
  · rintro ⟨length, listed⟩
    exact ⟨length, listed⟩
  · rintro ⟨length, listed⟩
    exact ⟨length, listed⟩

section Parameter

variable (now : Instant) (definitions : Definitions) {parameter items : SchemaNode} {path : String}
  {most least : Option Nat} (place : parameter.place? = some (.query, path))
  (isArray : parameter.isArray = true) (isItems : parameter.items = some items)
  (counts : parameter.rules = .ofCounts most least) (noMost : items.rules.maxItems = none)
  (noLeast : items.rules.minItems = none) (optional : parameter.isRequired = false)
  (optionalItems : items.isRequired = false) (values : List Json)
  (scalars : ∀ value ∈ values, ∀ inner, value ≠ .array inner)

include place isArray isItems counts noMost noLeast optional optionalItems scalars

theorem accepts_iff_apart_and_whole :
    (default : Lifecycle Unit).Accepts now (.array values)
        ((Compiler.parameter ⟨definitions, (default : Lifecycle Unit).folding⟩ ∅ parameter).rulesAt
          .query path) ↔
      (default : Lifecycle Unit).AcceptsApart now parameter items values ∧
        items.rules.AllowsWhole values := by
  let rules : RuleSet := { items.keywords false with maxItems := most, minItems := least }
  have merged : (Compiler.parameter ⟨definitions, (default : Lifecycle Unit).folding⟩ ∅
      parameter).rulesAt .query path = rules :=
    (Compiler.rulesAt_queryArray defaultTokenHeader definitions place isArray isItems).trans
      (SchemaNode.keywords_overlay_of_counts counts noMost noLeast optional optionalItems)
  have counted : rules.AllowsCount values.length ↔ parameter.rules.AllowsCount values.length := by
    rw [counts]
    rfl
  have each : (∀ value ∈ values, (default : Lifecycle Unit).Accepts now value rules) ↔
      ∀ value ∈ values, (default : Lifecycle Unit).Accepts now value (items.keywords false) := by
    refine forall₂_congr fun value member => ?_
    rw [default, accepts_withHeader, accepts_withHeader, verdict_of_not_array _ _ (scalars value member)]
  rw [merged, AcceptsApart, ← each, ← counted, ← allowsWhole_of_counts items most least, and_assoc]
  simp only [default, accepts_withHeader]
  exact verdict_array_eq_pass_iff _ _ _ _

/-- An array passes the rules of its query parameter exactly if they hold of it and of its items apart,
and besides the rules for items hold of the array as a whole: its length keeps their bounds on lengths,
and the array itself is in their enumeration. So array and items are told apart unless an array that
passes so fails as a whole. -/
theorem array_passes_iff_apart_and_whole :
    ((default : Lifecycle Unit).Accepts now (.array values)
        ((Compiler.parameter ⟨definitions, (default : Lifecycle Unit).folding⟩ ∅ parameter).rulesAt
          .query path) ↔
      (default : Lifecycle Unit).AcceptsApart now parameter items values ∧
        items.rules.AllowsWhole values) ∧
    (((default : Lifecycle Unit).Accepts now (.array values)
          ((Compiler.parameter ⟨definitions, (default : Lifecycle Unit).folding⟩ ∅ parameter).rulesAt
            .query path) ↔
        (default : Lifecycle Unit).AcceptsApart now parameter items values) ↔
      ((default : Lifecycle Unit).AcceptsApart now parameter items values →
        items.rules.AllowsWhole values)) := by
  have verdicts := accepts_iff_apart_and_whole now definitions place isArray isItems counts noMost
    noLeast optional optionalItems values scalars
  refine ⟨verdicts, ?_⟩
  rw [verdicts]
  constructor
  · intro same apart
    exact (same.mpr apart).2
  · intro implied
    exact ⟨And.left, fun apart => ⟨apart, implied apart⟩⟩

end Parameter

end Lifecycle

namespace Kinds

def items (rules : RuleSet) : SchemaNode := { SchemaNode.empty with type := some "string", rules := rules }

def parameter (rules : RuleSet) : SchemaNode :=
  { SchemaNode.empty with
    name := some "kinds"
    location := some "query"
    type := some "array"
    items := some (items rules)
    rules := .ofCounts (some 3) none }

def definitions : Definitions := ⟨∅, Definitions.defaultRoot⟩

def compiled (rules : RuleSet) : RuleSet :=
  (Compiler.parameter ⟨definitions, (Lifecycle.default : Lifecycle Unit).folding⟩ ∅
    (parameter rules)).rulesAt .query "kinds[]"

theorem place (rules : RuleSet) : (parameter rules).place? = some (.query, "kinds[]") := rfl

theorem scalars (texts : List String) : ∀ value ∈ texts.map Json.string, ∀ inner, value ≠ .array inner := by
  simp

theorem acceptsApart {rules : RuleSet} {texts : List String} (few : texts.length ≤ 3)
    (each : ∀ text ∈ texts, (Lifecycle.default : Lifecycle Unit).Accepts ⟨0, 0⟩ (.string text)
      ((items rules).keywords false)) :
    (Lifecycle.default : Lifecycle Unit).AcceptsApart ⟨0, 0⟩ (parameter rules) (items rules)
      (texts.map Json.string) := by
  refine ⟨⟨?_, ?_⟩, ?_⟩
  · intro limit isLimit
    obtain rfl := Option.some.inj isLimit
    simpa using few
  · intro limit isLimit
    cases isLimit
  · intro value member
    obtain ⟨text, isText, rfl⟩ := List.mem_map.mp member
    exact each text isText

def short : RuleSet := .ofMaxLength 3

theorem two_short_kinds_pass :
    (Lifecycle.default : Lifecycle Unit).Accepts ⟨0, 0⟩ (.array (["cat", "dog"].map Json.string))
      (compiled short) := by
  refine (Lifecycle.array_passes_iff_apart_and_whole ⟨0, 0⟩ definitions (place short) rfl rfl rfl rfl rfl
    rfl rfl _ (scalars _)).1.mpr ⟨acceptsApart (by decide) ?_, ?_⟩
  · intro text member
    rw [Lifecycle.default, Lifecycle.accepts_withHeader, Lifecycle.verdict_eq]
    rcases List.mem_cons.mp member with rfl | member
    · rfl
    · obtain rfl := List.mem_singleton.mp member
      rfl
  · have length : (items short).rules.AllowsLength 2 := by
      simp [items, short, RuleSet.ofMaxLength, RuleSet.AllowsLength, RuleSet.empty]
    exact ⟨length, fun _ isListed => by cases isListed⟩

def catOrDog : RuleSet := { RuleSet.empty with oneOf := some [.string "cat", .string "dog"] }

/-- A cat is a kind, but a list of a cat is rejected, since it is neither cat nor dog. -/
theorem listed_cat_fails :
    ¬ ((Lifecycle.default : Lifecycle Unit).Accepts ⟨0, 0⟩ (.array (["cat"].map Json.string))
        (compiled catOrDog) ↔
      (Lifecycle.default : Lifecycle Unit).AcceptsApart ⟨0, 0⟩ (parameter catOrDog) (items catOrDog)
        (["cat"].map Json.string)) := by
  intro agreement
  have apart : (Lifecycle.default : Lifecycle Unit).AcceptsApart ⟨0, 0⟩ (parameter catOrDog)
      (items catOrDog) (["cat"].map Json.string) := by
    refine acceptsApart (by decide) ?_
    intro text member
    obtain rfl := List.mem_singleton.mp member
    rw [Lifecycle.default, Lifecycle.accepts_withHeader, Lifecycle.verdict_eq]
    rfl
  have whole := ((Lifecycle.accepts_iff_apart_and_whole ⟨0, 0⟩ definitions (place catOrDog) rfl rfl rfl rfl
    rfl rfl rfl _ (scalars _)).mp (agreement.mpr apart)).2
  obtain ⟨candidate, member, allowed⟩ := whole.listed _ rfl
  rcases List.mem_cons.mp member with rfl | member
  · cases allowed
  · obtain rfl := List.mem_singleton.mp member
    cases allowed

end Kinds
end WireContract

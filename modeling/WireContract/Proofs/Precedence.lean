import Mathlib.Logic.Relation
import WireContract.Proofs.Acceptance

/-!
Decisions of the built-in rules. A validator that is registered after them is asked about the items of an
array before the built-in conditions on the array are, and may be used up there; even so what the built-in
rules decide alone is the outcome. Main statement: `outcome_of_decided`.
-/

namespace WireContract

namespace Chain

variable {σ α β : Type}

/-- Whatever was used up and noted before, `holds` is true of the result. -/
def Returns (action : Chain σ α) (holds : α → Prop) : Prop :=
  ∀ spent notes, holds ((action.run spent).run notes).1.1

theorem returns_pure {result : α} {holds : α → Prop} (isResult : holds result) :
    Returns (pure result : Chain σ α) holds :=
  fun _ _ => isResult

theorem returns_trivial (action : Chain σ α) : Returns action fun _ => True :=
  fun _ _ => trivial

theorem returns_bind {action : Chain σ α} {next : α → Chain σ β} {holds : α → Prop}
    {later : β → Prop} (first : Returns action holds)
    (second : ∀ result, holds result → Returns (next result) later) :
    Returns (action >>= next) later :=
  fun spent notes => second _ (first spent notes) _ _

theorem Returns.mono {action : Chain σ α} {holds weaker : α → Prop} (returns : Returns action holds)
    (implied : ∀ result, holds result → weaker result) : Returns action weaker :=
  fun spent notes => implied _ (returns spent notes)

theorem returns_emitFrom {η ρ : Type} {call : η → Chain σ (Option ρ)} {position : Nat} {handler : η}
    {rest : List (Subscription η)} {own later : Option ρ → Prop}
    (called : Returns (call handler) own)
    (continued : Returns (emitFrom claim call (position + 1) rest) later) :
    Returns (emitFrom claim call position (⟨handler, false⟩ :: rest))
      fun answer => own none ∧ later answer ∨ own answer ∧ answer.isSome = true := by
  simp only [emitFrom, Bool.false_eq_true, if_false, pure_bind, if_true]
  refine returns_bind called fun first isFirst => ?_
  cases first with
  | some answer => exact returns_pure (.inr ⟨isFirst, rfl⟩)
  | none => exact continued.mono fun _ isLater => .inl ⟨isFirst, isLater⟩

end Chain

theorem Channel.live_of_permanent_front {η : Type} {channel : Channel η}
    {front back : List (Subscription η)} (isChannel : channel.subscriptions = front ++ back)
    (permanent : ∀ subscription ∈ front, subscription.once = false) :
    ∃ kept, channel.live = front ++ kept := by
  have whole : front.zipIdx.filter (isLive channel.spent) = front.zipIdx := by
    apply List.filter_eq_self.mpr
    intro entry member
    simp [isLive, permanent entry.1 (List.fst_mem_of_mem_zipIdx member)]
  refine ⟨((back.zipIdx front.length).filter (isLive channel.spent)).map Prod.fst, ?_⟩
  rw [live, isChannel, List.zipIdx_append, List.filter_append, Nat.zero_add, whole, List.map_append,
    List.zipIdx_map_fst]

theorem Basic.opinion_array_none_or_fail (rules : RuleSet) (items : List Json) (key : Option String)
    (now : Instant) :
    opinion ⟨rules, .array items, key, now⟩ = none ∨
      opinion ⟨rules, .array items, key, now⟩ = some .fail := by
  refine firstOpinion_none_or_fail conditions _ fun condition member => ?_
  rw [conditions_eq, List.mem_append, List.mem_cons] at member
  rcases member with isLength | rfl | isContent
  · exact eq_none_or_fail_of_mem (List.mem_append_left _ isLength) _
  · exact .inl rfl
  · exact eq_none_or_fail_of_mem (List.mem_append_right _ isContent) _

namespace Validator

variable {σ : Type} {value : Json} (rules : RuleSet) (recheck : Recheck σ value)

theorem returns_anyFails {items : List Json} (smaller : ∀ item ∈ items, sizeOf item < sizeOf value)
    {bad : Json} (member : bad ∈ items)
    (fails : ∀ below, Chain.Returns (recheck bad below rules) (· = .fail)) :
    Chain.Returns (anyFails rules recheck items smaller) (· = true) := by
  induction items with
  | nil => cases member
  | cons item rest ih =>
    unfold anyFails
    cases member with
    | head =>
      refine Chain.returns_bind (fails _) fun outcome isFail => ?_
      subst isFail
      exact Chain.returns_pure rfl
    | tail _ later =>
      refine Chain.returns_bind (Chain.returns_trivial _) fun outcome _ => ?_
      cases outcome with
      | fail => exact Chain.returns_pure rfl
      | pass | unauthorized => exact ih _ later

theorem returns_array (check : Check) (recheck : Recheck σ check.value) (rejects : Json → Bool)
    (certain : ∀ item, (below : sizeOf item < sizeOf check.value) → rejects item = true →
      Chain.Returns (recheck item below check.rules) (· = .fail)) :
    Chain.Returns ((array : Validator σ).opinion check recheck) fun answer =>
      answer = arrayOpinion rejects check.rules check.value ∨
        arrayOpinion rejects check.rules check.value = none ∧
          (∃ items, check.value = .array items) ∧ answer = some .fail := by
  obtain ⟨rules, value, key, now⟩ := check
  cases value with
  | array items =>
    simp only [array, arrayOpinion]
    cases counted : countOpinion rules items.length with
    | some outcome => exact Chain.returns_pure (.inl rfl)
    | none =>
      cases rejected : items.any rejects with
      | true =>
        obtain ⟨bad, member, isRejected⟩ := List.any_eq_true.mp rejected
        have found := returns_anyFails rules recheck
          (fun item member => Json.sizeOf_lt_of_mem_array member) member
          (fun below => certain bad below isRejected)
        refine Chain.returns_bind found fun failed isFound => ?_
        subst isFound
        exact Chain.returns_pure (.inl rfl)
      | false =>
        refine Chain.returns_bind (Chain.returns_trivial _) fun failed _ => ?_
        cases failed with
        | true => exact Chain.returns_pure (.inr ⟨rfl, ⟨items, rfl⟩, rfl⟩)
        | false => exact Chain.returns_pure (.inl rfl)
  | _ => exact Chain.returns_pure (.inl rfl)

end Validator

namespace Lifecycle

variable {σ : Type}

def opinion (validators : List (Subscription (Validator σ))) (now : Instant) (value : Json)
    (rules : RuleSet) (key : Option String) : Chain σ (Option Outcome) :=
  emitFrom claim (fun validator : Validator σ =>
    validator.opinion ⟨rules, value, key, now⟩ fun part _ rules => check validators now part rules none)
    0 validators

def decision (lifecycle : Lifecycle Unit) (now : Instant) (value : Json) (rules : RuleSet)
    (key : Option String) : Option Outcome :=
  ((lifecycle.run fun validators => opinion validators now value rules key).run ()).1.1

theorem check_eq (validators : List (Subscription (Validator σ))) (now : Instant) (value : Json)
    (rules : RuleSet) (key : Option String) :
    check validators now value rules key =
      return (← opinion validators now value rules key).getD .pass := by
  rw [check]
  rfl

theorem opinion_builtIn (header : String) (now : Instant) (value : Json) (rules : RuleSet)
    (key : Option String) :
    opinion (builtIn header : List (Subscription (Validator σ))) now value rules key =
      pure ((Validator.requiredOpinion ⟨rules, value, key, now⟩).or
        ((Validator.tokenOpinion (Validator.tokenHeader header) ⟨rules, value, key, now⟩).or
          ((Validator.arrayOpinion (fun item => verdict header now item rules none == .fail)
            rules value).or (Basic.opinion ⟨rules, value, key, now⟩)))) := by
  have chain := emitFrom_builtIn header ⟨rules, value, key, now⟩
    (fun part _ rules => check (builtIn header : List (Subscription (Validator σ))) now part rules none)
    (fun item => verdict header now item rules none)
    (fun item _ => check_builtIn header now item rules none) [] rfl
  rw [List.append_nil, Option.or_none] at chain
  exact chain

theorem decision_withHeader (header : String) (now : Instant) (value : Json) (rules : RuleSet)
    (key : Option String) :
    (withHeader header).decision now value rules key =
      (Validator.requiredOpinion ⟨rules, value, key, now⟩).or
        ((Validator.tokenOpinion (Validator.tokenHeader header) ⟨rules, value, key, now⟩).or
          ((Validator.arrayOpinion (fun item => verdict header now item rules none == .fail)
            rules value).or (Basic.opinion ⟨rules, value, key, now⟩))) := by
  simp only [decision, run]
  rw [subscriptions_withHeader, opinion_builtIn]
  rfl

theorem decision_of_verdict_fail {header : String} {now : Instant} {value : Json} {rules : RuleSet}
    {key : Option String} (fails : verdict header now value rules key = .fail) :
    (withHeader header).decision now value rules key = some .fail := by
  rw [verdict_eq, ← decision_withHeader] at fails
  cases decided : (withHeader header).decision now value rules key with
  | none => rw [decided] at fails; cases fails
  | some outcome => rw [decided] at fails; exact congrArg some fails

/-- Of a decision the first opinion is the answer, or else the answer and the decision come later. -/
theorem decided_or_later {first rest answer : Option Outcome} {later : Prop} {outcome : Outcome}
    (isAnswer : none = first ∧ later ∨ answer = first ∧ answer.isSome = true)
    (decided : first.or rest = some outcome) :
    answer = some outcome ∨ later ∧ rest = some outcome := by
  rcases isAnswer with ⟨silent, isLater⟩ | ⟨rfl, answered⟩
  · rw [← silent, Option.none_or] at decided
    exact .inr ⟨isLater, decided⟩
  · rw [Option.or_of_isSome answered] at decided
    exact .inl decided

/-- A decision of the built-in validators is the outcome of every chain that starts with them. -/
theorem returns_check_of_decided {header : String} (later : List (Subscription (Validator σ)))
    {now : Instant} {value : Json} {rules : RuleSet} {key : Option String} {outcome : Outcome}
    (decided : (withHeader header).decision now value rules key = some outcome) :
    Chain.Returns (check (builtIn header ++ later) now value rules key) (· = outcome) := by
  -- an item that the built-in rules reject is rejected by the whole chain
  induction size : sizeOf value using Nat.strongRecOn generalizing value key outcome with
  | ind size ih =>
    subst size
    let recheck : Recheck σ value := fun part _ rules =>
      check (builtIn header ++ later) now part rules none
    let call (validator : Validator σ) := validator.opinion ⟨rules, value, key, now⟩ recheck
    have required : Chain.Returns (call .required)
        (· = Validator.requiredOpinion ⟨rules, value, key, now⟩) := Chain.returns_pure rfl
    have token : Chain.Returns (call (.token header))
        (· = Validator.tokenOpinion (Validator.tokenHeader header) ⟨rules, value, key, now⟩) :=
      Chain.returns_pure rfl
    have array := Validator.returns_array ⟨rules, value, key, now⟩ recheck
      (fun item => verdict header now item rules none == .fail) fun item below rejected =>
        ih _ below (decision_of_verdict_fail (by simpa using rejected)) rfl
    have basic : Chain.Returns (call .basic) (· = Basic.opinion ⟨rules, value, key, now⟩) :=
      Chain.returns_pure rfl
    have rest : Chain.Returns (emitFrom claim call 4 later) fun _ => True := fun _ _ => trivial
    have chain := Chain.returns_emitFrom required (Chain.returns_emitFrom token
      (Chain.returns_emitFrom array (Chain.returns_emitFrom basic rest)))
    rw [decision_withHeader] at decided
    rw [check_eq]
    refine Chain.returns_bind chain fun answer isAnswer => Chain.returns_pure ?_
    have isOutcome : answer = some outcome := by
      rcases decided_or_later isAnswer decided with isOutcome | ⟨isAnswer, decided⟩
      case inl => exact isOutcome
      rcases decided_or_later isAnswer decided with isOutcome | ⟨isAnswer, decided⟩
      case inl => exact isOutcome
      rcases isAnswer with ⟨ofItems, isAnswer⟩ | ⟨ofItems, answered⟩
      case inl =>
        have silent := ofItems.resolve_right fun rejected => nomatch rejected.2.2
        rw [← silent, Option.none_or] at decided
        rcases isAnswer with ⟨silent, _⟩ | ⟨rfl, _⟩
        · rw [← silent] at decided
          cases decided
        · exact decided
      case inr =>
        rcases ofItems with rfl | ⟨silent, ⟨items, rfl⟩, rfl⟩
        · rwa [Option.or_of_isSome answered] at decided
        -- the later validators failed an item before the conditions on the array were asked
        · rw [silent, Option.none_or] at decided
          rcases Basic.opinion_array_none_or_fail rules items key now with basic | basic <;>
            rw [basic] at decided
          · cases decided
          · exact decided
    rw [isOutcome]
    rfl

/-- What may happen to a lifecycle: a registration, or a use of its validators, which may use some up. -/
inductive Proceeds : Lifecycle σ → Lifecycle σ → Prop
  | registered (lifecycle : Lifecycle σ) (validator : Validator σ) (once : Bool) :
    Proceeds lifecycle (lifecycle.register validator once)
  | registeredParser (lifecycle : Lifecycle σ) (parser : Parser σ) (once : Bool) :
    Proceeds lifecycle (lifecycle.registerParser parser once)
  | used {α : Type} (lifecycle : Lifecycle σ) (action : List (Subscription (Validator σ)) → Chain σ α)
      (notes : σ) : Proceeds lifecycle ((lifecycle.run action).run notes).1.2
  | compiled (lifecycle : Lifecycle σ) (model : CheckModel) (reached : Reached) (notes : σ) :
    Proceeds lifecycle ((lifecycle.compile model reached).run notes).1.2

theorem permanent_builtIn (header : String) :
    ∀ subscription ∈ (builtIn header : List (Subscription (Validator σ))),
      subscription.once = false := by
  simp [builtIn]

def StartsBuiltIn (header : String) (lifecycle : Lifecycle σ) : Prop :=
  ∃ later, lifecycle.validators.subscriptions = builtIn header ++ later

theorem StartsBuiltIn.proceeds {header : String} {lifecycle next : Lifecycle σ}
    (starts : StartsBuiltIn header lifecycle) (proceeds : Proceeds lifecycle next) :
    StartsBuiltIn header next := by
  obtain ⟨later, isChain⟩ := starts
  cases proceeds with
  | registered _ validator once =>
    obtain ⟨kept, isLive⟩ := Channel.live_of_permanent_front isChain (permanent_builtIn header)
    refine ⟨kept ++ [⟨validator, once⟩], ?_⟩
    rw [← List.append_assoc, ← isLive]
    rfl
  | registeredParser | used | compiled => exact ⟨later, isChain⟩

theorem StartsBuiltIn.of_proceeds {header : String} {lifecycle : Lifecycle σ}
    (proceeds : Relation.ReflTransGen Proceeds (withHeader header) lifecycle) :
    StartsBuiltIn header lifecycle := by
  induction proceeds with
  | refl => exact ⟨[], by rw [subscriptions_withHeader, List.append_nil]⟩
  | tail _ step ih => exact ih.proceeds step

/-- Where the built-in rules alone come to a decision, it is the outcome of every check by a lifecycle to
which any validators have been added, no matter which of them are used up before or during the check. -/
theorem outcome_of_decided {header : String} {lifecycle : Lifecycle σ}
    (proceeds : Relation.ReflTransGen Proceeds (withHeader header) lifecycle) {now : Instant}
    {value : Json} {rules : RuleSet} {key : Option String} {outcome : Outcome}
    (decided : (withHeader header).decision now value rules key = some outcome) (notes : σ) :
    ((lifecycle.run fun validators => check validators now value rules key).run notes).1.1 =
      outcome := by
  obtain ⟨later, isChain⟩ := StartsBuiltIn.of_proceeds proceeds
  have returns := returns_check_of_decided later decided lifecycle.validators.spent notes
  rw [← isChain] at returns
  exact returns

theorem verdict_array_of_mem {header : String} {now : Instant} {rules : RuleSet} {items : List Json}
    {item : Json} (member : item ∈ items) (fails : verdict header now item rules none = .fail) :
    verdict header now (.array items) rules none = .fail := by
  refine Decidable.byContradiction fun notFail => ?_
  have passes := (verdict_ne_fail_iff_pass header now _ rules).mp notFail
  have itemPasses := ((verdict_array_eq_pass_iff header now items rules).mp passes).2.1 item member
  rw [fails] at itemPasses
  cases itemPasses

end Lifecycle

namespace Waivers

def always (outcome : Outcome) : Validator Unit := .ofCondition "always" fun _ => some outcome

def lifecycle : Lifecycle Unit :=
  (Lifecycle.default.register (always .pass) true).register (always .unauthorized) false

theorem proceeds : Relation.ReflTransGen Lifecycle.Proceeds Lifecycle.default lifecycle :=
  .tail (.single (.registered _ _ _)) (.registered _ _ _)

def labels : Json := .array [.string "ab", .array [.string "abc"]]

theorem decided :
    Lifecycle.default.decision ⟨0, 0⟩ labels (.ofMaxLength 2) none = some .fail := by
  have long : Lifecycle.verdict Lifecycle.defaultTokenHeader ⟨0, 0⟩ (.string "abc") (.ofMaxLength 2)
      none = .fail := by
    rw [Lifecycle.verdict_eq]
    decide
  have isAlone : .string "abc" ∈ [Json.string "abc"] := List.mem_singleton.mpr rfl
  have inner := Lifecycle.verdict_array_of_mem isAlone long
  exact Lifecycle.decision_of_verdict_fail
    (Lifecycle.verdict_array_of_mem (.tail _ (.head _)) inner)

/-- The label that is too long is found although the short one before it is waived, and no label is called
unauthorized. -/
theorem long_label_not_waived :
    Relation.ReflTransGen Lifecycle.Proceeds Lifecycle.default lifecycle ∧
      Lifecycle.default.decision ⟨0, 0⟩ labels (.ofMaxLength 2) none = some .fail ∧
      lifecycle.outcome ⟨0, 0⟩ labels (.ofMaxLength 2) none = .fail :=
  ⟨proceeds, decided, Lifecycle.outcome_of_decided proceeds decided ()⟩

end Waivers
end WireContract

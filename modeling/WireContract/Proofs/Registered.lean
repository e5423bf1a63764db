import WireContract.Proofs.Acceptance
import WireContract.Proofs.Handing

namespace WireContract

namespace Lifecycle

variable {σ : Type}

def registerAll (lifecycle : Lifecycle σ) (registered : List (String × Condition)) : Lifecycle σ :=
  registered.foldl (fun lifecycle entry => lifecycle.register (.ofCondition entry.1 entry.2) false)
    lifecycle

def linksOf (registered : List (String × Condition)) : List (Subscription (Validator σ)) :=
  registered.map fun entry => ⟨.ofCondition entry.1 entry.2, false⟩

theorem subscriptions_registerAll {lifecycle : Lifecycle σ}
    (permanent : ∀ subscription ∈ lifecycle.validators.subscriptions, subscription.once = false)
    (registered : List (String × Condition)) :
    (lifecycle.registerAll registered).validators.subscriptions =
      lifecycle.validators.subscriptions ++ linksOf registered := by
  induction registered generalizing lifecycle with
  | nil => simp [registerAll, linksOf]
  | cons entry rest ih =>
    have grown : (lifecycle.register (.ofCondition entry.1 entry.2) false).validators.subscriptions =
        lifecycle.validators.subscriptions ++ [⟨.ofCondition entry.1 entry.2, false⟩] := by
      simp [register, Channel.add, Channel.live_of_permanent permanent]
    have stays : ∀ subscription ∈
        (lifecycle.register (.ofCondition entry.1 entry.2) false).validators.subscriptions,
        subscription.once = false := by
      rw [grown]
      intro subscription member
      rcases List.mem_append.mp member with earlier | last
      · exact permanent subscription earlier
      · rw [List.mem_singleton.mp last]
    rw [registerAll, List.foldl_cons, ← registerAll, ih stays, grown, List.append_assoc]
    rfl

def withRegistered (header : String) (registered : List (String × Condition)) : Lifecycle σ :=
  (withHeader header).registerAll registered

theorem subscriptions_withRegistered (header : String) (registered : List (String × Condition)) :
    (withRegistered header registered : Lifecycle σ).validators.subscriptions =
      builtIn header ++ linksOf registered := by
  rw [withRegistered, subscriptions_registerAll, subscriptions_withHeader]
  intro subscription member
  rw [subscriptions_withHeader] at member
  simp only [builtIn, List.mem_cons, List.not_mem_nil, or_false] at member
  rcases member with rfl | rfl | rfl | rfl <;> rfl

theorem emitFrom_linksOf (registered : List (String × Condition)) (check : Check)
    (recheck : Recheck σ check.value) (position : Nat) :
    emitFrom claim (fun validator : Validator σ => validator.opinion check recheck) position
        (linksOf registered) =
      pure (firstOpinion (registered.map Prod.snd) check) := by
  induction registered generalizing position with
  | nil => rfl
  | cons entry rest ih =>
    let call (validator : Validator σ) := validator.opinion check recheck
    have called : call (.ofCondition entry.1 entry.2) = pure (entry.2 check) := rfl
    show emitFrom claim call position (⟨.ofCondition entry.1 entry.2, false⟩ :: linksOf rest) = _
    rw [Channel.emitFrom_permanent called (ih (position + 1))]
    cases decided : entry.2 check <;> simp [firstOpinion, decided]

variable (header : String) (registered : List (String × Condition)) (now : Instant)

def registeredOpinion (rejects : Json → Bool) (check : Check) : Option Outcome :=
  (Validator.requiredOpinion check).or
    ((Validator.tokenOpinion (Validator.tokenHeader header) check).or
      ((Validator.arrayOpinion rejects check.rules check.value).or
        ((Basic.opinion check).or (firstOpinion (registered.map Prod.snd) check))))

theorem outcome_of_check {lifecycle : Lifecycle Unit} {value : Json} {rules : RuleSet}
    {key : Option String} {outcome : Outcome}
    (settled : check lifecycle.validators.subscriptions now value rules key = pure outcome) :
    lifecycle.outcome now value rules key = outcome := by
  simp only [Lifecycle.outcome, run, settled]
  rfl

theorem check_registered (value : Json) (rules : RuleSet) (key : Option String) :
    let lifecycle : Lifecycle Unit := withRegistered header registered
    check lifecycle.validators.subscriptions now value rules key =
      pure ((registeredOpinion header registered
        (fun item => lifecycle.outcome now item rules none == .fail) ⟨rules, value, key, now⟩).getD
          .pass) := by
  intro lifecycle
  -- the only part that is checked again is an item of an array
  induction size : sizeOf value using Nat.strongRecOn generalizing value key with
  | ind size ih =>
    subst size
    let recheck : Recheck Unit value := fun part _ rules =>
      check lifecycle.validators.subscriptions now part rules none
    have settled (item : Json) (below : sizeOf item < sizeOf value) :
        recheck item below rules = pure (lifecycle.outcome now item rules none) := by
      have settled := ih _ below item none rfl
      rw [outcome_of_check now settled]
      exact settled
    have chain := emitFrom_builtIn header ⟨rules, value, key, now⟩ recheck
      (fun item => lifecycle.outcome now item rules none) settled _
      (emitFrom_linksOf registered ⟨rules, value, key, now⟩ recheck 4)
    rw [← subscriptions_withRegistered] at chain
    rw [check, chain, pure_bind]
    rfl

theorem outcome_withRegistered (value : Json) (rules : RuleSet) (key : Option String) :
    (withRegistered header registered).outcome now value rules key =
      (registeredOpinion header registered
        (fun item => (withRegistered header registered).outcome now item rules none == .fail)
        ⟨rules, value, key, now⟩).getD .pass :=
  outcome_of_check now (check_registered header registered now value rules key)

theorem validate_withRegistered (model : CheckModel) (request : Request) :
    (withRegistered header registered).validate now model request =
      Judge.request ((withRegistered header registered).outcome now) model request := by
  have settles : Checker.Settles (fun value rules key =>
      check (withRegistered header registered : Lifecycle Unit).validators.subscriptions now value rules
        key) ((withRegistered header registered).outcome now) := by
    intro value rules key
    have settled := check_registered header registered now value rules key
    rw [outcome_of_check now settled]
    exact settled
  simp only [validate, run, validateWith]
  rw [Checker.request_pure settles]
  rfl

theorem exists_unauthorized_of_outcome {value : Json} {rules : RuleSet}
    (unauthorized :
      (withRegistered header registered).outcome now value rules none = .unauthorized) :
    ∃ entry ∈ registered, entry.2 ⟨rules, value, none, now⟩ = some .unauthorized := by
  rw [outcome_withRegistered, registeredOpinion, Validator.tokenOpinion_without_key, Option.none_or]
    at unauthorized
  generalize (fun item => (withRegistered header registered).outcome now item rules none == .fail) =
    rejects at unauthorized
  cases decided : (Validator.requiredOpinion ⟨rules, value, none, now⟩).or
      ((Validator.arrayOpinion rejects rules value).or
        ((Basic.opinion ⟨rules, value, none, now⟩).or
          (firstOpinion (registered.map Prod.snd) ⟨rules, value, none, now⟩))) with
  | none => simp [decided] at unauthorized
  | some outcome =>
    rw [decided, Option.getD_some] at unauthorized
    subst unauthorized
    rcases Option.or_eq_some_iff.mp decided with missing | ⟨_, decided⟩
    · exact absurd missing (failIf_ne_unauthorized _)
    rcases Option.or_eq_some_iff.mp decided with items | ⟨_, decided⟩
    · exact absurd items (Validator.arrayOpinion_ne_unauthorized _ _ _)
    rcases Option.or_eq_some_iff.mp decided with basic | ⟨_, further⟩
    · exact absurd basic (Basic.opinion_ne_unauthorized _)
    obtain ⟨condition, member, answered⟩ := List.exists_of_findSome?_eq_some further
    obtain ⟨entry, isEntry, rfl⟩ := List.mem_map.mp member
    exact ⟨entry, isEntry, answered⟩

/-- A request is accepted exactly when every value that is handed to a check passes, or comes from outside
the headers and is unauthorized. So validation fails closed as long as no registered condition answers that
a value from outside the headers is unauthorized. -/
theorem validate_pass_iff_of_registered (model : CheckModel) (request : Request) :
    let lifecycle := withRegistered header registered
    (lifecycle.validate now model request = .pass ↔
      ∀ location value rules key, model.Hands request location value rules key →
        lifecycle.outcome now value rules key = .pass ∨
          location ≠ .header ∧ lifecycle.outcome now value rules key = .unauthorized) ∧
    ((∀ entry ∈ registered, ∀ rules value,
        entry.2 ⟨rules, value, none, now⟩ ≠ some .unauthorized) →
      ∀ location value rules key, model.Hands request location value rules key →
        lifecycle.outcome now value rules key ≠ .pass →
        lifecycle.validate now model request ≠ .pass) := by
  intro lifecycle
  have accepted : lifecycle.validate now model request = .pass ↔
      ∀ location value rules key, model.Hands request location value rules key →
        lifecycle.outcome now value rules key = .pass ∨
          location ≠ .header ∧ lifecycle.outcome now value rules key = .unauthorized := by
    rw [validate_withRegistered, Judge.request_eq_pass_iff_hands]
    refine forall₅_congr fun location value rules key _ => ?_
    exact Location.not_rejects_iff location (lifecycle.outcome now value rules key)
  refine ⟨accepted, fun never location value rules key handed rejected passed => ?_⟩
  rcases accepted.mp passed location value rules key handed with passes | ⟨outside, unauthorized⟩
  · exact rejected passes
  · obtain rfl := handed.key_eq_none outside
    obtain ⟨entry, member, answered⟩ :=
      exists_unauthorized_of_outcome header registered now unauthorized
    exact never entry member rules value answered

end Lifecycle

namespace Blocklist

def condition (outcome : Outcome) : Condition := fun check =>
  match check.value with
  | .string text => if text == "x" then some outcome else none
  | _ => none

def lifecycle (outcome : Outcome) : Lifecycle Unit :=
  .withRegistered Lifecycle.defaultTokenHeader [("blocklist", condition outcome)]

def rules : RuleSet := .ofMaxLength 5

def model : CheckModel := (∅ : CheckModel).update .query "page" fun _ => rules

def request : Request := (∅ : Request).withQuery "page" (.string "x")

theorem handed : model.Hands request .query (.string "x") rules none := by
  have declared : model.rules? .query "page" = some rules := rfl
  exact .query declared

theorem outcome_eq (outcome : Outcome) :
    (lifecycle outcome).outcome ⟨0, 0⟩ (.string "x") rules none = outcome := by
  rw [lifecycle, Lifecycle.outcome_withRegistered]
  rfl

theorem blocked_page_rejected : (lifecycle .fail).validate ⟨0, 0⟩ model request ≠ .pass := by
  refine (Lifecycle.validate_pass_iff_of_registered _ _ _ model request).2 ?_ _ _ _ _ handed ?_
  · intro entry member rules value
    obtain rfl := List.mem_singleton.mp member
    simp only [condition]
    split
    · split <;> simp
    · simp
  · show (lifecycle .fail).outcome _ _ _ _ ≠ _
    rw [outcome_eq]
    decide

/-- A page that the condition calls unauthorized is handed to the check, and the request passes. -/
theorem unauthorized_page_accepted :
    ¬ ∀ location value rules key, model.Hands request location value rules key →
      (lifecycle .unauthorized).outcome ⟨0, 0⟩ value rules key ≠ .pass →
      (lifecycle .unauthorized).validate ⟨0, 0⟩ model request ≠ .pass := by
  intro closed
  have rejected : (lifecycle .unauthorized).outcome ⟨0, 0⟩ (.string "x") rules none ≠ .pass := by
    rw [outcome_eq]
    decide
  have query : Checker.entriesOf model.query = [("page", rules)] := rfl
  have page : request.query.get? "page" = some (.string "x") := rfl
  refine closed _ _ _ _ handed rejected ?_
  rw [lifecycle, Lifecycle.validate_withRegistered, ← lifecycle, Judge.request_eq_pass_iff, query]
  refine ⟨?_, rfl, rfl, rfl⟩
  simp only [Judge.rejects, Checker.valueIn, List.any_cons, List.any_nil, page, Option.getD_some,
    outcome_eq]
  rfl

end Blocklist
end WireContract

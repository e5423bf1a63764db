import WireContract.Request.Validation

/-!
The built-in rules as a function. No built-in validator takes notes or is used up, so a check by all of
them is a plain outcome, and so is the validation of a request. Main statements: `outcome_withHeader` and
`validate_withHeader`.
-/

namespace WireContract

namespace Channel

variable {η ρ : Type} {m : Type → Type} [Monad m] [LawfulMonad m]

/-- A permanent handler with a settled answer comes before all that follow it. -/
theorem emitFrom_permanent {claim : Nat → m Bool} {call : η → m (Option ρ)} {position : Nat}
    {handler : η} {rest : List (Subscription η)} {answer later : Option ρ}
    (called : call handler = pure answer)
    (continued : emitFrom claim call (position + 1) rest = pure later) :
    emitFrom claim call position (⟨handler, false⟩ :: rest) = pure (answer.or later) := by
  cases answer with
  | some result => simp [emitFrom, called]
  | none => simp [emitFrom, called, continued]

theorem live_of_permanent {channel : Channel η}
    (permanent : ∀ subscription ∈ channel.subscriptions, subscription.once = false) :
    channel.live = channel.subscriptions := by
  have kept : channel.subscriptions.zipIdx.filter (isLive channel.spent) =
      channel.subscriptions.zipIdx := by
    apply List.filter_eq_self.mpr
    intro entry member
    simp [isLive, permanent entry.1 (List.fst_mem_of_mem_zipIdx member)]
  rw [live, kept, List.zipIdx_map_fst]

end Channel

namespace Validator

variable {σ : Type}

def arrayOpinion (rejects : Json → Bool) (rules : RuleSet) : Json → Option Outcome
  | .array items => (countOpinion rules items.length).or (failIf (items.any rejects))
  | _ => none

theorem anyFails_pure {value : Json} (rules : RuleSet) (recheck : Recheck σ value)
    (outcome : Json → Outcome) (items : List Json)
    (smaller : ∀ item ∈ items, sizeOf item < sizeOf value)
    (rechecked : ∀ item, (below : sizeOf item < sizeOf value) →
      recheck item below rules = pure (outcome item)) :
    anyFails rules recheck items smaller = pure (items.any fun item => outcome item == .fail) := by
  induction items with
  | nil => rfl
  | cons item rest ih =>
    unfold anyFails
    rw [rechecked item, pure_bind]
    cases failed : outcome item == .fail with
    | true => simp [failed]
    | false => simp [failed, ih]

theorem array_opinion_pure (check : Check) (recheck : Recheck σ check.value)
    (outcome : Json → Outcome)
    (rechecked : ∀ item, (below : sizeOf item < sizeOf check.value) →
      recheck item below check.rules = pure (outcome item)) :
    (array : Validator σ).opinion check recheck =
      pure (arrayOpinion (fun item => outcome item == .fail) check.rules check.value) := by
  obtain ⟨rules, value, key, now⟩ := check
  cases value with
  | array items =>
    simp only [array, arrayOpinion]
    cases counted : countOpinion rules items.length with
    | some decided => rfl
    | none =>
      rw [anyFails_pure rules recheck outcome items _ rechecked]
      rfl
  | _ => rfl

end Validator

namespace Basic

theorem opinion_empty (value : Json) (key : Option String) (now : Instant) :
    opinion ⟨∅, value, key, now⟩ = none ∨ opinion ⟨∅, value, key, now⟩ = some .pass := by
  have rules : (∅ : RuleSet) = RuleSet.empty := rfl
  cases blank : value.isBlank <;>
    simp [rules, opinion, firstOpinion, conditions, maxLength, minLength, xMaxLength, xMinLength,
      longerThan, shorterThan, noValue, maximum, minimum, pattern, oneOf, RuleSet.empty,
      List.findSome?_cons, blank]

end Basic

namespace Lifecycle

variable {σ : Type}

def builtIn (header : String) : List (Subscription (Validator σ)) :=
  [⟨.required, false⟩, ⟨.token header, false⟩, ⟨.array, false⟩, ⟨.basic, false⟩]

theorem subscriptions_withHeader (header : String) :
    (withHeader header : Lifecycle σ).validators.subscriptions = builtIn header := by
  simp [withHeader, registerParser, register, empty, Channel.add, Channel.new,
    Channel.live_of_permanent, builtIn]

def verdict (header : String) (now : Instant) (value : Json) (rules : RuleSet)
    (key : Option String) : Outcome :=
  let check : Check := ⟨rules, value, key, now⟩
  let items : Option Outcome :=
    match value with
    | .array items =>
      (Validator.countOpinion rules items.length).or
        (failIf (items.attach.any fun item => verdict header now item rules none == Outcome.fail))
    | _ => none
  ((Validator.requiredOpinion check).or
    ((Validator.tokenOpinion (Validator.tokenHeader header) check).or
      (items.or (Basic.opinion check)))).getD .pass
termination_by sizeOf value
decreasing_by exact Json.sizeOf_lt_of_mem_array item.2

theorem verdict_eq (header : String) (now : Instant) (value : Json) (rules : RuleSet)
    (key : Option String) :
    verdict header now value rules key =
      ((Validator.requiredOpinion ⟨rules, value, key, now⟩).or
        ((Validator.tokenOpinion (Validator.tokenHeader header) ⟨rules, value, key, now⟩).or
          ((Validator.arrayOpinion (fun item => verdict header now item rules none == .fail)
            rules value).or (Basic.opinion ⟨rules, value, key, now⟩)))).getD .pass := by
  conv => lhs; unfold verdict
  cases value with
  | array items =>
    have attached : (items.attach.any fun item => verdict header now item rules none == .fail) =
        items.any fun item => verdict header now item rules none == .fail := by
      rw [List.any_subtype (g := fun item => verdict header now item rules none == .fail)
        fun item member => rfl, List.unattach_attach]
    simp only [Validator.arrayOpinion, attached]
  | _ => simp only [Validator.arrayOpinion]

theorem verdict_empty (header : String) (now : Instant) (value : Json) (key : Option String) :
    verdict header now value ∅ key = .pass := by
  induction size : sizeOf value using Nat.strongRecOn generalizing value key with
  | ind size ih =>
    subst size
    have items : Validator.arrayOpinion (fun item => verdict header now item ∅ none == .fail) ∅ value =
        none := by
      cases value with
      | array items =>
        have passes : (items.any fun item => verdict header now item ∅ none == .fail) = false := by
          apply List.any_eq_false.mpr
          intro item member
          rw [ih _ (Json.sizeOf_lt_of_mem_array member) item none rfl]
          decide
        rw [Validator.arrayOpinion, passes]
        rfl
      | _ => rfl
    have required : Validator.requiredOpinion ⟨∅, value, key, now⟩ = none := rfl
    have token : Validator.tokenOpinion (Validator.tokenHeader header) ⟨∅, value, key, now⟩ = none := rfl
    rw [verdict_eq, required, token, items]
    rcases Basic.opinion_empty value key now with basic | basic <;> rw [basic] <;> rfl

/-- The built-in validators in front of others, where the items of an array are settled. -/
theorem emitFrom_builtIn (header : String) (check : Check) (recheck : Recheck σ check.value)
    (outcome : Json → Outcome)
    (rechecked : ∀ item, (below : sizeOf item < sizeOf check.value) →
      recheck item below check.rules = pure (outcome item))
    (rest : List (Subscription (Validator σ))) {later : Option Outcome}
    (continued : emitFrom claim (fun validator : Validator σ => validator.opinion check recheck) 4 rest =
      pure later) :
    emitFrom claim (fun validator : Validator σ => validator.opinion check recheck) 0
        (builtIn header ++ rest) =
      pure ((Validator.requiredOpinion check).or
        ((Validator.tokenOpinion (Validator.tokenHeader header) check).or
          ((Validator.arrayOpinion (fun item => outcome item == .fail) check.rules check.value).or
            ((Basic.opinion check).or later)))) := by
  let call (validator : Validator σ) := validator.opinion check recheck
  have required : call .required = pure (Validator.requiredOpinion check) := rfl
  have token : call (.token header) =
      pure (Validator.tokenOpinion (Validator.tokenHeader header) check) := rfl
  have array : call .array = pure (Validator.arrayOpinion (fun item => outcome item == .fail)
      check.rules check.value) := Validator.array_opinion_pure check recheck outcome rechecked
  have basic : call .basic = pure (Basic.opinion check) := rfl
  exact Channel.emitFrom_permanent required (Channel.emitFrom_permanent token
    (Channel.emitFrom_permanent array (Channel.emitFrom_permanent basic continued)))

theorem check_builtIn (header : String) (now : Instant) (value : Json) (rules : RuleSet)
    (key : Option String) :
    check (builtIn header : List (Subscription (Validator σ))) now value rules key =
      pure (verdict header now value rules key) := by
  -- the only part that is checked again is an item of an array
  induction size : sizeOf value using Nat.strongRecOn generalizing value key with
  | ind size ih =>
    subst size
    let recheck : Recheck σ value := fun part _ rules => check (builtIn header) now part rules none
    have chain := emitFrom_builtIn header ⟨rules, value, key, now⟩ recheck
      (fun item => verdict header now item rules none) (fun item below => ih _ below item none rfl) []
      rfl
    rw [List.append_nil, Option.or_none] at chain
    rw [check, verdict_eq, chain, pure_bind]

/-- The built-in rules come to their verdict. -/
theorem outcome_withHeader (header : String) (now : Instant) (value : Json) (rules : RuleSet)
    (key : Option String) :
    (withHeader header).outcome now value rules key = verdict header now value rules key := by
  simp only [outcome, run]
  rw [subscriptions_withHeader, check_builtIn]
  rfl

end Lifecycle

abbrev Judge := Json → RuleSet → Option String → Outcome

namespace Judge

variable (judge : Judge)

def rejects (valuesAt : String → List Json) (fields : List (String × RuleSet)) : Bool :=
  fields.any fun field => (valuesAt field.1).any fun value => judge value field.2 none == .fail

theorem rejects_cons (valuesAt : String → List Json) (path : String) (rules : RuleSet)
    (rest : List (String × RuleSet)) :
    judge.rejects valuesAt ((path, rules) :: rest) =
      (((valuesAt path).any fun value => judge value rules none == .fail) ||
        judge.rejects valuesAt rest) := rfl

def headerOutcome? (request : Request) (field : String × RuleSet) : Option Outcome :=
  let name := Request.headerName field.1
  let outcome := judge ((request.headers.get? name).getD .null) field.2 (some name)
  if outcome != .pass then some outcome else none

def request (model : CheckModel) (request : Request) : Outcome :=
  ((failIf (judge.rejects (Checker.valueIn request.query) (Checker.entriesOf model.query))).or
    ((failIf (judge.rejects (Checker.valueIn request.params) (Checker.entriesOf model.path))).or
      (((Checker.entriesOf model.header).findSome? (judge.headerOutcome? request)).or
        (failIf (judge.rejects
          (fun path => BodyPath.resolve (BodyPath.segments path) request.body)
          (Checker.entriesOf model.body)))))).getD .pass

theorem headerOutcome?_ne_pass {request : Request} {field : String × RuleSet} {outcome : Outcome}
    (found : judge.headerOutcome? request field = some outcome) : outcome ≠ .pass := by
  simp only [headerOutcome?] at found
  split at found
  · next rejected =>
    obtain rfl := Option.some.inj found
    simpa using rejected
  · cases found

theorem request_eq_pass_iff (model : CheckModel) (request : Request) :
    judge.request model request = .pass ↔
      judge.rejects (Checker.valueIn request.query) (Checker.entriesOf model.query) = false ∧
      judge.rejects (Checker.valueIn request.params) (Checker.entriesOf model.path) = false ∧
      (Checker.entriesOf model.header).findSome? (judge.headerOutcome? request) = none ∧
      judge.rejects (fun path => BodyPath.resolve (BodyPath.segments path) request.body)
        (Checker.entriesOf model.body) = false := by
  have headers : ∀ outcome,
      (Checker.entriesOf model.header).findSome? (judge.headerOutcome? request) = some outcome →
        outcome ≠ .pass := by
    intro outcome found
    obtain ⟨field, _, isOutcome⟩ := List.exists_of_findSome?_eq_some found
    exact judge.headerOutcome?_ne_pass isOutcome
  unfold Judge.request failIf
  generalize judge.rejects (Checker.valueIn request.query) _ = query
  generalize judge.rejects (Checker.valueIn request.params) _ = path
  generalize List.findSome? _ _ = header at headers ⊢
  generalize judge.rejects _ (Checker.entriesOf model.body) = body
  cases header with
  | none => cases query <;> cases path <;> cases body <;> simp
  | some outcome =>
    have rejected := headers outcome rfl
    cases query <;> cases path <;> simp [rejected]

theorem request_eq_unauthorized_iff (model : CheckModel) (request : Request) :
    judge.request model request = .unauthorized ↔
      judge.rejects (Checker.valueIn request.query) (Checker.entriesOf model.query) = false ∧
      judge.rejects (Checker.valueIn request.params) (Checker.entriesOf model.path) = false ∧
      (Checker.entriesOf model.header).findSome? (judge.headerOutcome? request) =
        some .unauthorized := by
  unfold Judge.request failIf
  generalize judge.rejects (Checker.valueIn request.query) _ = query
  generalize judge.rejects (Checker.valueIn request.params) _ = path
  generalize List.findSome? _ _ = header
  generalize judge.rejects _ (Checker.entriesOf model.body) = body
  cases header with
  | none => cases query <;> cases path <;> cases body <;> simp
  | some outcome => cases query <;> cases path <;> simp

theorem request_of_body {model : CheckModel} (query : model.section? .query = none)
    (path : model.section? .path = none) (header : model.section? .header = none)
    (request : Request) :
    judge.request model request =
      if judge.rejects (fun path => BodyPath.resolve (BodyPath.segments path) request.body)
        (Checker.entriesOf model.body) then .fail else .pass := by
  simp only [CheckModel.section?] at query path header
  have nothing : Checker.entriesOf none = [] := rfl
  simp only [Judge.request, query, path, header, nothing]
  generalize judge.rejects _ (Checker.entriesOf model.body) = body
  cases body <;> rfl

end Judge

namespace Checker

variable {σ : Type} {checker : Checker σ} {judge : Judge}

/-- The checker takes no notes and uses nothing up: it only comes to the outcome that `judge` says. -/
def Settles (checker : Checker σ) (judge : Judge) : Prop :=
  ∀ value rules key, checker value rules key = pure (judge value rules key)

theorem anyFails_pure (settled : checker.Settles judge)
    (rules : RuleSet) (values : List Json) :
    checker.anyFails rules values = pure (values.any fun value => judge value rules none == .fail) := by
  induction values with
  | nil => rfl
  | cons value rest ih =>
    unfold anyFails
    rw [settled, pure_bind]
    cases failed : judge value rules none == .fail with
    | true => simp [failed]
    | false => simp [failed, ih]

theorem fields_pure (settled : checker.Settles judge)
    (valuesAt : String → List Json) (entries : List (String × RuleSet)) :
    checker.fields valuesAt entries = pure (failIf (judge.rejects valuesAt entries)) := by
  induction entries with
  | nil => rfl
  | cons entry rest ih =>
    obtain ⟨path, rules⟩ := entry
    unfold fields
    rw [anyFails_pure settled, pure_bind, judge.rejects_cons]
    cases (valuesAt path).any fun value => judge value rules none == .fail with
    | true => rfl
    | false => exact ih

theorem headers_pure (settled : checker.Settles judge)
    (request : Request) (entries : List (String × RuleSet)) :
    checker.headers request entries = pure (entries.findSome? (judge.headerOutcome? request)) := by
  induction entries with
  | nil => rfl
  | cons entry rest ih =>
    obtain ⟨name, rules⟩ := entry
    unfold headers
    show checker _ rules _ >>= _ = _
    rw [settled, pure_bind]
    simp only [List.findSome?_cons, Judge.headerOutcome?]
    split
    · rfl
    · exact ih

theorem firstVerdict_pure_cons (opinion : Option Outcome)
    (later : List (Chain σ (Option Outcome))) (outcome : Outcome)
    (continued : firstVerdict later = pure outcome) :
    firstVerdict (pure opinion :: later) = pure (opinion.getD outcome) := by
  cases opinion with
  | some decided => simp [firstVerdict]
  | none => simp [firstVerdict, continued]

theorem mem_entriesOf {model : CheckModel} (location : Location) {path : String}
    {rules : RuleSet} :
    (path, rules) ∈ entriesOf (model.section? location) ↔
      model.rules? location path = some rules := by
  cases found : model.section? location with
  | none => simp [entriesOf, CheckModel.rules?, found]
  | some fields => simp [entriesOf, CheckModel.rules?, found, Dict.get?_eq_some_iff]

theorem entriesOf_eq_nil_of_isEmpty {model : CheckModel} (isEmpty : model.isEmpty = true)
    (location : Location) : entriesOf (model.section? location) = [] := by
  have noEntries : model.entries = [] := List.isEmpty_iff.mp isEmpty
  have ofLocation := List.flatMap_eq_nil_iff.mp noEntries location location.mem_all
  cases found : model.section? location with
  | none => rfl
  | some fields =>
    rw [found] at ofLocation
    exact List.map_eq_nil_iff.mp ofLocation

theorem request_pure (settled : checker.Settles judge)
    (model : CheckModel) (request : Request) :
    checker.request model request = pure (judge.request model request) := by
  by_cases isEmpty : model.isEmpty = true
  · have nothing := entriesOf_eq_nil_of_isEmpty isEmpty
    have query := nothing .query
    have path := nothing .path
    have header := nothing .header
    have body := nothing .body
    simp only [CheckModel.section?] at query path header body
    simp [Checker.request, isEmpty, Judge.request, query, path, header, body, Judge.rejects, failIf]
  · simp only [Checker.request, isEmpty, Bool.false_eq_true, if_false, fields_pure settled,
      headers_pure settled]
    rw [firstVerdict_pure_cons _ _ _ (firstVerdict_pure_cons _ _ _ (firstVerdict_pure_cons _ _ _
      (firstVerdict_pure_cons _ _ _ rfl)))]
    simp only [Judge.request, Option.getD_or]

end Checker

namespace Judge

variable (judge : Judge)

theorem rejects_eq_false_iff (valuesAt : String → List Json) (model : CheckModel)
    (location : Location) :
    judge.rejects valuesAt (Checker.entriesOf (model.section? location)) = false ↔
      ∀ path rules, model.rules? location path = some rules →
        ∀ value ∈ valuesAt path, judge value rules none ≠ .fail := by
  simp only [rejects, List.any_eq_false, Bool.not_eq_true, beq_eq_false_iff_ne]
  constructor
  · intro none path rules present value member
    exact none (path, rules) ((Checker.mem_entriesOf location).mpr present) value member
  · intro none field member value reached
    exact none field.1 field.2 ((Checker.mem_entriesOf location).mp member) value reached

theorem rejects_eq_true_iff (silent : ∀ value, judge value ∅ none ≠ .fail)
    (valuesAt : String → List Json) (model : CheckModel) (location : Location) :
    judge.rejects valuesAt (Checker.entriesOf (model.section? location)) = true ↔
      ∃ path, ∃ value ∈ valuesAt path,
        judge value (model.rulesAt location path) none = .fail := by
  simp only [rejects, List.any_eq_true, beq_iff_eq]
  constructor
  · rintro ⟨⟨path, rules⟩, member, value, reached, fails⟩
    have present := (Checker.mem_entriesOf location).mp member
    exact ⟨path, value, reached, by rw [CheckModel.rulesAt, present]; exact fails⟩
  · rintro ⟨path, value, reached, fails⟩
    cases present : model.rules? location path with
    | none =>
      rw [CheckModel.rulesAt, present] at fails
      exact absurd fails (silent value)
    | some rules =>
      rw [CheckModel.rulesAt, present] at fails
      exact ⟨(path, rules), (Checker.mem_entriesOf location).mpr present, value, reached, fails⟩

end Judge

namespace Lifecycle

theorem validate_withHeader (header : String) (now : Instant) (model : CheckModel)
    (request : Request) :
    (withHeader header).validate now model request =
      Judge.request (verdict header now) model request := by
  simp only [validate, run, validateWith]
  rw [subscriptions_withHeader,
    Checker.request_pure (fun value rules key => check_builtIn header now value rules key)]
  rfl

end Lifecycle
end WireContract

import WireContract.Proofs.Verdict

namespace WireContract

theorem failIf_ne_unauthorized (rejected : Bool) : failIf rejected ≠ some .unauthorized := by
  cases rejected <;> simp [failIf]

namespace Basic

theorem longerThan_ne_unauthorized (limit : Option Nat) (value : Json) :
    longerThan limit value ≠ some .unauthorized := by
  unfold longerThan
  split
  · exact failIf_ne_unauthorized _
  · simp

theorem shorterThan_ne_unauthorized (limit : Option Nat) (value : Json) :
    shorterThan limit value ≠ some .unauthorized := by
  unfold shorterThan
  split
  · exact failIf_ne_unauthorized _
  · simp

theorem condition_ne_unauthorized {condition : Condition} (member : condition ∈ conditions)
    (check : Check) : condition check ≠ some .unauthorized := by
  simp only [conditions, List.mem_cons, List.not_mem_nil, or_false] at member
  rcases member with rfl | rfl | rfl | rfl | rfl | rfl | rfl | rfl | rfl
  · exact longerThan_ne_unauthorized _ _
  · exact shorterThan_ne_unauthorized _ _
  · exact longerThan_ne_unauthorized _ _
  · exact shorterThan_ne_unauthorized _ _
  · unfold noValue
    split <;> simp
  all_goals
    first
      | unfold maximum
      | unfold minimum
      | unfold pattern
      | unfold oneOf
    split
    · exact failIf_ne_unauthorized _
    · simp

theorem opinion_ne_unauthorized (check : Check) : opinion check ≠ some .unauthorized := by
  intro found
  obtain ⟨condition, member, decided⟩ := List.exists_of_findSome?_eq_some found
  exact condition_ne_unauthorized member check decided

end Basic

namespace Validator

theorem arrayOpinion_ne_unauthorized (rejects : Json → Bool) (rules : RuleSet) (value : Json) :
    arrayOpinion rejects rules value ≠ some .unauthorized := by
  cases value with
  | array items =>
    simp only [arrayOpinion, countOpinion]
    intro found
    rcases Option.or_eq_some_iff.mp found with counted | ⟨_, failed⟩
    · rcases Option.or_eq_some_iff.mp counted with tooMany | ⟨_, tooFew⟩
      · exact failIf_ne_unauthorized _ tooMany
      · exact failIf_ne_unauthorized _ tooFew
    · exact failIf_ne_unauthorized _ failed
  | _ => simp [arrayOpinion]

end Validator

namespace Token

def Accepted (value : Json) (now : Instant) : Prop :=
  ∃ raw, value = .string raw ∧ isValid raw now = true

end Token

namespace Validator

theorem tokenOpinion_eq_unauthorized_iff (header : String) (check : Check) :
    tokenOpinion header check = some .unauthorized ↔
      check.rules.isRequired = true ∧ check.value ≠ .null ∧ check.key = some header ∧
        ¬ Token.Accepted check.value check.now := by
  obtain ⟨rules, value, key, now⟩ := check
  by_cases watched : key = some header
  · cases required : rules.isRequired
    · simp [tokenOpinion, required]
    · cases value with
      | string raw => cases valid : Token.isValid raw now <;>
          simp [tokenOpinion, required, watched, Json.isNull, Token.Accepted, valid]
      | _ => simp [tokenOpinion, required, watched, Json.isNull, Token.Accepted]
  · simp [tokenOpinion, watched]

end Validator

namespace Lifecycle

theorem eq_token_of_verdict_unauthorized {header : String} {now : Instant} {value : Json}
    {rules : RuleSet} {key : Option String}
    (unauthorized : verdict header now value rules key = .unauthorized) :
    rules.isRequired = true ∧ value ≠ .null ∧ key = some (Validator.tokenHeader header) ∧
      ¬ Token.Accepted value now := by
  rw [verdict_eq] at unauthorized
  -- only the token rule says so, since all others fail, pass or have no opinion
  apply (Validator.tokenOpinion_eq_unauthorized_iff _ ⟨rules, value, key, now⟩).mp
  cases chain : (Validator.requiredOpinion ⟨rules, value, key, now⟩).or
      ((Validator.tokenOpinion (Validator.tokenHeader header) ⟨rules, value, key, now⟩).or
        ((Validator.arrayOpinion (fun item => verdict header now item rules none == .fail)
          rules value).or (Basic.opinion ⟨rules, value, key, now⟩))) with
  | none => simp [chain] at unauthorized
  | some outcome =>
    rw [chain, Option.getD_some] at unauthorized
    subst unauthorized
    rcases Option.or_eq_some_iff.mp chain with missing | ⟨_, chain⟩
    · exact absurd missing (failIf_ne_unauthorized _)
    · rcases Option.or_eq_some_iff.mp chain with token | ⟨_, chain⟩
      · exact token
      · rcases Option.or_eq_some_iff.mp chain with items | ⟨_, basic⟩
        · exact absurd items (Validator.arrayOpinion_ne_unauthorized _ _ _)
        · exact absurd basic (Basic.opinion_ne_unauthorized _)

theorem accepted_of_verdict_pass {header : String} {now : Instant} {value : Json} {rules : RuleSet}
    (required : rules.isRequired = true)
    (passed : verdict header now value rules (some (Validator.tokenHeader header)) = .pass) :
    Token.Accepted value now := by
  refine Classical.byContradiction fun rejected => ?_
  rw [verdict_eq] at passed
  by_cases missing : value = .null
  · subst missing
    simp [Validator.requiredOpinion, failIf, required, Json.isNull] at passed
  · have token := (Validator.tokenOpinion_eq_unauthorized_iff (Validator.tokenHeader header)
      ⟨rules, value, some (Validator.tokenHeader header), now⟩).mpr
        ⟨required, missing, rfl, rejected⟩
    have present : Validator.requiredOpinion
        ⟨rules, value, some (Validator.tokenHeader header), now⟩ = none := by
      cases value <;> simp [Validator.requiredOpinion, failIf, Json.isNull] at missing ⊢
    rw [present, token] at passed
    simp at passed

end Lifecycle

namespace Judge

variable (judge : Judge)

theorem valueIn_eq_false_iff (values : Dict Json) (model : CheckModel) (location : Location) :
    judge.rejects (Checker.valueIn values) (Checker.entriesOf (model.section? location)) = false ↔
      ∀ name rules, model.rules? location name = some rules →
        judge ((values.get? name).getD .null) rules none ≠ .fail := by
  simp [rejects_eq_false_iff, Checker.valueIn]

end Judge

namespace Lifecycle

theorem outcome_none_ne_unauthorized (header : String) (now : Instant) (value : Json)
    (rules : RuleSet) : (withHeader header).outcome now value rules none ≠ .unauthorized := by
  rw [outcome_withHeader]
  intro unauthorized
  cases (eq_token_of_verdict_unauthorized unauthorized).2.2.1

theorem accepted_of_validate_pass {header : String} {now : Instant} {model : CheckModel}
    {request : Request} {name : String} {rules : RuleSet}
    (present : model.rules? .header name = some rules)
    (same : Text.sameIgnoringCase name header = true) (required : rules.isRequired = true)
    (passed : (withHeader header).validate now model request = .pass) :
    Token.Accepted ((request.headers.get? (Text.asciiLower name)).getD .null) now := by
  rw [validate_withHeader] at passed
  have headers := ((Judge.request_eq_pass_iff _ model request).mp passed).2.2.1
  have settled := List.findSome?_eq_none_iff.mp headers (name, rules)
    ((Checker.mem_entriesOf .header).mpr present)
  have lowered : Request.headerName name = Validator.tokenHeader header := eq_of_beq same
  simp only [Judge.headerOutcome?, lowered] at settled
  split at settled
  · cases settled
  · next notRejected =>
    have accepted := accepted_of_verdict_pass required (by simpa using notRejected)
    rwa [← lowered] at accepted

theorem header_of_validate_unauthorized {header : String} {now : Instant} {model : CheckModel}
    {request : Request}
    (unauthorized : (withHeader header).validate now model request = .unauthorized) :
    ∃ name rules value, model.rules? .header name = some rules ∧
      Text.sameIgnoringCase name header = true ∧ rules.isRequired = true ∧
      request.headers.get? (Text.asciiLower name) = some value ∧ value ≠ .null ∧
      ¬ Token.Accepted value now := by
  rw [validate_withHeader] at unauthorized
  have headers := ((Judge.request_eq_unauthorized_iff _ model request).mp unauthorized).2.2
  obtain ⟨⟨name, rules⟩, member, rejected⟩ := List.exists_of_findSome?_eq_some headers
  simp only [Judge.headerOutcome?] at rejected
  split at rejected
  · have verdict := Option.some.inj rejected
    obtain ⟨required, present, key, notAccepted⟩ := eq_token_of_verdict_unauthorized verdict
    have lowered : Request.headerName name = Validator.tokenHeader header := Option.some.inj key
    cases found : request.headers.get? (Request.headerName name) with
    | none => simp [found] at present
    | some value =>
      rw [found, Option.getD_some] at present notAccepted
      exact ⟨name, rules, value, (Checker.mem_entriesOf .header).mp member,
        beq_iff_eq.mpr lowered, required, found, present, notAccepted⟩
  · cases rejected

end Lifecycle
end WireContract

import WireContract.Proofs.TokenGate
import WireContract.Proofs.TokenText

namespace WireContract

namespace Lifecycle

/-- With the built-in rules a request passes a required token header only with an accepted token in it,
and is unauthorized only for such a header that holds something else, once no query value and no path
parameter has failed; a check without a header name never says so. -/
theorem token_gate (header : String) (now : Instant) (model : CheckModel) (request : Request) :
    (∀ name rules, model.rules? .header name = some rules →
      Text.sameIgnoringCase name header = true → rules.isRequired = true →
      (withHeader header).validate now model request = .pass →
      ∃ raw, request.headers.get? (Text.asciiLower name) = some (.string raw) ∧
        Token.isValid raw now = true) ∧
    ((withHeader header).validate now model request = .unauthorized →
      (∃ name rules value, model.rules? .header name = some rules ∧
        Text.sameIgnoringCase name header = true ∧ rules.isRequired = true ∧
        request.headers.get? (Text.asciiLower name) = some value ∧ value ≠ .null ∧
        ¬ ∃ raw, value = .string raw ∧ Token.isValid raw now = true) ∧
      (∀ name rules, model.rules? .query name = some rules →
        (withHeader header).outcome now ((request.query.get? name).getD .null) rules none ≠ .fail) ∧
      (∀ name rules, model.rules? .path name = some rules →
        (withHeader header).outcome now ((request.params.get? name).getD .null) rules none ≠
          .fail)) ∧
    (∀ value rules, (withHeader header).outcome now value rules none ≠ .unauthorized) := by
  refine ⟨?pass, ?unauthorized, outcome_none_ne_unauthorized header now⟩
  case pass =>
    intro name rules present same required passed
    obtain ⟨raw, isText, valid⟩ := accepted_of_validate_pass present same required passed
    cases found : request.headers.get? (Text.asciiLower name) with
    | none => simp [found] at isText
    | some value =>
      rw [found, Option.getD_some] at isText
      exact ⟨raw, by rw [isText], valid⟩
  case unauthorized =>
    intro unauthorized
    refine ⟨header_of_validate_unauthorized unauthorized, ?_⟩
    rw [validate_withHeader] at unauthorized
    obtain ⟨query, path, _⟩ := (Judge.request_eq_unauthorized_iff _ model request).mp unauthorized
    constructor
    · intro name rules present
      rw [outcome_withHeader]
      exact (Judge.valueIn_eq_false_iff _ _ model .query).mp query name rules present
    · intro name rules present
      rw [outcome_withHeader]
      exact (Judge.valueIn_eq_false_iff _ _ model .path).mp path name rules present

end Lifecycle

namespace Turnstile

def rules : RuleSet := { RuleSet.empty with required := some true }

def model : CheckModel := (∅ : CheckModel).update .header "X-Auth-Token" fun _ => rules

def request (token : String) : Request := (∅ : Request).withHeader "x-auth-token" (.string token)

def outcome (now : Instant) (token : String) : Outcome :=
  (Lifecycle.withHeader "X-AUTH-TOKEN").validate now model (request token)

theorem verdict_eq (now : Instant) (token : String) :
    Lifecycle.verdict "X-AUTH-TOKEN" now (.string token) rules (some "x-auth-token") =
      if Token.isValid token now then .pass else .unauthorized := by
  have isWatched : Validator.tokenHeader "X-AUTH-TOKEN" = "x-auth-token" := by decide
  have opinion : Validator.tokenOpinion "x-auth-token" ⟨rules, .string token, some "x-auth-token", now⟩ =
      if Token.isValid token now then none else some .unauthorized := by
    simp [Validator.tokenOpinion, rules, RuleSet.isRequired, Json.isNull]
  have present : Validator.requiredOpinion ⟨rules, .string token, some "x-auth-token", now⟩ = none := rfl
  have noItems (rejects : Json → Bool) : Validator.arrayOpinion rejects rules (.string token) = none := rfl
  have noOthers : (Basic.opinion ⟨rules, .string token, some "x-auth-token", now⟩).getD .pass = .pass := by
    have sameAsNone : Basic.opinion ⟨rules, .string token, some "x-auth-token", now⟩ =
        Basic.opinion ⟨∅, .string token, some "x-auth-token", now⟩ := rfl
    rw [sameAsNone]
    rcases Basic.opinion_empty (.string token) (some "x-auth-token") now with silent | passed
    · rw [silent, Option.getD_none]
    · rw [passed, Option.getD_some]
  rw [Lifecycle.verdict_eq, isWatched, opinion, present, noItems, Option.none_or, Option.none_or]
  cases Token.isValid token now with
  | true => exact noOthers
  | false => rfl

theorem outcome_eq (now : Instant) (token : String) :
    outcome now token = if Token.isValid token now then .pass else .unauthorized := by
  have headers : Checker.entriesOf model.header = [("X-Auth-Token", rules)] := rfl
  have name : Request.headerName "X-Auth-Token" = "x-auth-token" := by decide
  have held : (request token).headers.get? "x-auth-token" = some (.string token) := by
    rw [request, Request.withHeader, Dict.get?_insert, if_pos (by decide)]
  have judged : Judge.headerOutcome? (Lifecycle.verdict "X-AUTH-TOKEN" now) (request token)
      ("X-Auth-Token", rules) = if Token.isValid token now then none else some .unauthorized := by
    simp only [Judge.headerOutcome?, name, held, Option.getD_some, verdict_eq]
    cases Token.isValid token now <;> rfl
  rw [outcome, Lifecycle.validate_withHeader, Judge.request, headers, List.findSome?_singleton, judged]
  cases Token.isValid token now <;> rfl

theorem expiry?_stamped : Token.expiry? Token.stamped = some ⟨86400, 0⟩ := by
  have noSpaces : ∀ c ∈ ([] : List Char), Json.Reader.isSpace c = true := List.forall_mem_nil _
  have decoded := Token.decode?_of_padded (by decide) (by decide) noSpaces noSpaces noSpaces
    Token.reads_stamped (by decide) Token.padded_stamped Token.spaced_stamped
  exact (Token.expiry?_of_decoded decoded).trans Token.expires_stamped

theorem not_isValid_percent (now : Instant) : Token.isValid "%" now = false := by
  have symbols : Token.symbols "%" = ['%'] := by
    have isText : "%".toList.filter (fun c => !Token.isBlank c) = ['%'] := by
      have visible : Token.isBlank '%' = false := Token.not_isBlank_of_visible (by decide) (by decide)
      have text : "%".toList = ['%'] := rfl
      rw [text, List.filter_singleton, visible]
      rfl
    rw [Token.symbols, isText]
    rfl
  have noBytes : Base64.decode? ['%'] = none := by
    simp [Base64.decode?, Base64.lastBytes?]
  have noExpiry : Token.expiry? "%" = none := by
    rw [Token.expiry?, Token.decode?, symbols, noBytes]
    rfl
  rw [Token.isValid, noExpiry]

/-- A token lets requests through until it expires; a text without one never does. -/
theorem stamped_until_expired :
    outcome ⟨5, 0⟩ Token.stamped = .pass ∧ outcome ⟨86400, 0⟩ Token.stamped = .unauthorized ∧
      outcome ⟨5, 0⟩ "%" = .unauthorized ∧
      (∃ raw, (request Token.stamped).headers.get? "x-auth-token" = some (.string raw) ∧
        Token.isValid raw ⟨5, 0⟩ = true) := by
  have early : outcome ⟨5, 0⟩ Token.stamped = .pass := by
    rw [outcome_eq, Token.isValid, expiry?_stamped]
    rfl
  have late : outcome ⟨86400, 0⟩ Token.stamped = .unauthorized := by
    rw [outcome_eq, Token.isValid, expiry?_stamped]
    rfl
  have malformed : outcome ⟨5, 0⟩ "%" = .unauthorized := by
    rw [outcome_eq, not_isValid_percent]
    rfl
  have gate := (Lifecycle.token_gate "X-AUTH-TOKEN" ⟨5, 0⟩ model (request Token.stamped)).1
  have present : model.rules? .header "X-Auth-Token" = some rules := rfl
  have accepted := gate "X-Auth-Token" rules present (by decide) rfl early
  have name : Text.asciiLower "X-Auth-Token" = "x-auth-token" := by decide
  rw [name] at accepted
  exact ⟨early, late, malformed, accepted⟩

end Turnstile

end WireContract

import WireContract.Contract.OfDocument
import WireContract.Proofs.Acceptance
import WireContract.Proofs.WholeBody

/-!
Values that are bound from a request have been checked. A field is read under its name in data and checked
under the name of its place in the check model; the two differ for arrays in the query. Main statements:
`pass_of_held`, of a single place, and `bound_values_pass`.
-/

namespace WireContract

namespace Location

def headerKey? (location : Location) (name : String) : Option String :=
  if location = .header then some (Request.headerName name) else none

end Location

namespace Request

def held? (request : Request) (location : Location) (name : String) : Option Json :=
  match location with
  | .query => request.query.get? name
  | .path => request.params.get? name
  | .header => request.header? name
  | .body => some request.body
  | .definitions => none

end Request

namespace SchemaNode

/-- The name under which values for a parameter are looked up when they are checked: that of an array in
the query has the array mark. -/
def checkedName (parameter : SchemaNode) (location : Location) (name : String) : String :=
  if location == .query && parameter.isArray then BodyPath.items name else name

theorem place?_eq {parameter : SchemaNode} {location : Location} {name : String}
    (isLocation : parameter.location.bind Location.ofName? = some location)
    (isName : parameter.name = some name) :
    parameter.place? =
      some (location,
        if location = .body then BodyPath.wholeBody else parameter.checkedName location name) := by
  rw [place?, isLocation, isName]
  cases location <;> rfl

end SchemaNode

namespace Field

theorem inCamelCase_eq (field : Field) :
    field.inCamelCase = field ∨
      field.inCamelCase =
        { field with name := Text.lowerCamel field.name, rename := some field.name } := by
  unfold inCamelCase
  simp only
  split
  · exact .inr rfl
  · exact .inl rfl

theorem ofParameter?_eq_some {definitions : Definitions} {check : CheckModel} {parameter : SchemaNode}
    {field : Field} (describes : ofParameter? definitions check parameter = some field) :
    parameter.name = some field.wireName ∧
      parameter.location.bind Location.ofName? = field.location ∧
      field.inlineRules = parameter.place?.bind fun (location, path) => check.rules? location path := by
  obtain ⟨name, isName, rfl⟩ := Option.map_eq_some_iff.mp describes
  rw [isName]
  rcases inCamelCase_eq _ with same | renamed
  · rw [same]
    exact ⟨rfl, rfl, rfl⟩
  · rw [renamed]
    exact ⟨rfl, rfl, rfl⟩

end Field

namespace Contractor

variable (contractor : Contractor) (document : Document)

def definitions : Definitions := ⟨document.definitions, contractor.root⟩

def endpoint (entry : Document.Entry) : Endpoint :=
  .ofEntry ⟨contractor.definitions document, contractor.fold⟩ entry

end Contractor

/-- An entry has a parameter that a field of its request describes. -/
structure Document.Entry.Declares (definitions : Definitions) (check : CheckModel) (entry : Document.Entry)
    (parameter : SchemaNode) (field : Field) : Prop where
  isParameter : parameter ∈ Compiler.parametersOf entry.item entry.operation
  describes : Field.ofParameter? definitions check parameter = some field

namespace Lifecycle

variable (header : String) (now : Instant)

theorem pass_of_held {model : CheckModel} {request : Request}
    (passed : (withHeader header).validate now model request = .pass) {location : Location}
    {path : String} {rules : RuleSet} (present : model.rules? location path = some rules)
    {value : Json} (held : request.held? location path = some value)
    (whole : location = .body → path = BodyPath.wholeBody ∧ value.isFalsy = false) :
    verdict header now value rules (location.headerKey? path) = .pass := by
  have sections := passed
  rw [validate_withHeader] at sections
  obtain ⟨query, params, headers, _⟩ := (Judge.request_eq_pass_iff _ model request).mp sections
  cases location with
  | query =>
    have lenient := (Judge.valueIn_eq_false_iff _ _ model .query).mp query path rules present
    simp only [Request.held?] at held
    rw [held, Option.getD_some] at lenient
    exact (verdict_ne_fail_iff_pass _ _ _ _).mp lenient
  | path =>
    have lenient := (Judge.valueIn_eq_false_iff _ _ model .path).mp params path rules present
    simp only [Request.held?] at held
    rw [held, Option.getD_some] at lenient
    exact (verdict_ne_fail_iff_pass _ _ _ _).mp lenient
  | header =>
    have settled := List.findSome?_eq_none_iff.mp headers (path, rules)
      ((Checker.mem_entriesOf .header).mpr present)
    simp only [Request.held?, Request.header?] at held
    simp only [Judge.headerOutcome?, held, Option.getD_some] at settled
    split at settled
    · cases settled
    · next accepted => simpa [Location.headerKey?] using accepted
  | body =>
    obtain ⟨rfl, notFalsy⟩ := whole rfl
    obtain rfl := Option.some.inj held
    have resolved : request.body ∈
        BodyPath.resolve (BodyPath.segments BodyPath.wholeBody) request.body := by
      rw [BodyPath.resolve_wholeBody, notFalsy]
      exact List.mem_singleton.mpr rfl
    have accepted := pass_of_resolved header now passed resolved
    rwa [CheckModel.rulesAt, present, Option.getD_some] at accepted
  | definitions => cases held

theorem pass_of_described {definitions : Definitions} {check : CheckModel} {parameter : SchemaNode}
    {field : Field} (describes : Field.ofParameter? definitions check parameter = some field)
    {request : Request} (passed : (withHeader header).validate now check request = .pass)
    {location : Location} (isLocation : field.location = some location) {value : Json}
    (held : request.held? location (parameter.checkedName location field.wireName) = some value)
    (notFalsy : location = .body → value.isFalsy = false) :
    verdict header now value (field.inlineRules.getD ∅) (location.headerKey? field.wireName) = .pass := by
  obtain ⟨name, located, rules⟩ := Field.ofParameter?_eq_some describes
  rw [SchemaNode.place?_eq (located.trans isLocation) name, Option.bind_some] at rules
  cases present : field.inlineRules with
  | none => exact verdict_empty _ _ _ _
  | some inline =>
    rw [Option.getD_some]
    by_cases isBody : location = .body
    · subst isBody
      exact pass_of_held header now passed (rules.symm.trans present) held fun _ => ⟨rfl, notFalsy rfl⟩
    · rw [if_neg isBody] at rules
      have accepted := pass_of_held header now passed (rules.symm.trans present) held
        fun body => absurd body isBody
      have sameKey : location.headerKey? (parameter.checkedName location field.wireName) =
          location.headerKey? field.wireName := by
        cases location <;> rfl
      rw [← sameKey]
      exact accepted

/-- What an accepted request holds for a field under its name in data has passed the field's rules,
except that an array in the query is checked under the name with the array mark, and that a falsy body is
not checked at all. -/
theorem bound_values_pass (now : Instant) (contractor : Contractor) (document : Document)
    {endpoint : Endpoint} (isOperation : endpoint ∈ (Contract.ofDocument contractor document).operations)
    {field : Field} (isField : field ∈ endpoint.request) {request : Request}
    (passed : (default : Lifecycle Unit).validate now endpoint.check request = .pass) :
    (∃ entry ∈ document.entries, endpoint = contractor.endpoint document entry) ∧
      ∀ entry, endpoint = contractor.endpoint document entry →
        (∃ parameter, entry.Declares (contractor.definitions document) endpoint.check parameter field) ∧
        ∀ parameter, entry.Declares (contractor.definitions document) endpoint.check parameter field →
          ∀ location value, field.location = some location →
            request.held? location (parameter.checkedName location field.wireName) = some value →
            (location = .body → value.isFalsy = false) →
              (default : Lifecycle Unit).outcome now value (field.inlineRules.getD ∅)
                (location.headerKey? field.wireName) = .pass := by
  constructor
  · simp only [Contract.ofDocument, List.mem_map, List.mem_filter] at isOperation
    obtain ⟨entry, ⟨isEntry, _⟩, same⟩ := isOperation
    exact ⟨entry, isEntry, same.symm⟩
  · rintro entry rfl
    constructor
    · obtain ⟨parameter, isParameter, describes⟩ := List.mem_filterMap.mp isField
      exact ⟨parameter, isParameter, describes⟩
    · intro parameter declares location value isLocation held notFalsy
      rw [default, outcome_withHeader]
      exact pass_of_described _ now declares.describes passed isLocation held notFalsy

end Lifecycle

namespace Labels

def parameter : SchemaNode :=
  { SchemaNode.empty with
    name := some "tags"
    location := some "query"
    type := some "array"
    items := some { SchemaNode.empty with type := some "string", rules := .ofMaxLength 2 } }

def operation : Operation := ⟨some "list", [], none, [parameter], ∅⟩

def item : PathItem := ⟨fun | .get => some operation | _ => none, []⟩

def document : Document := ⟨none, ∅, Dict.ofList [("/labels", item)]⟩

def contractor : Contractor := .default (Lifecycle.default : Lifecycle Unit).folding

def endpoint : Endpoint := contractor.endpoint document ⟨"/labels", .get, item, operation⟩

theorem isOperation : endpoint ∈ (Contract.ofDocument contractor document).operations := by
  have operations : (Contract.ofDocument contractor document).operations = [endpoint] := rfl
  rw [operations]
  exact List.mem_singleton.mpr rfl

theorem check_eq : endpoint.check = (∅ : CheckModel).update .query "tags[]" fun _ => .ofMaxLength 2 := by
  have folding : contractor.fold = Parser.record :=
    Lifecycle.folding_withHeader Lifecycle.defaultTokenHeader
  have check : endpoint.check =
      Compiler.operation ⟨⟨document.definitions, contractor.root⟩, contractor.fold⟩ item operation := rfl
  rw [check, folding]
  rfl

def field : Field :=
  { Field.new "tags" "string[]" with
    optional := true
    location := some .query
    inlineRules := some (.ofMaxLength 2) }

theorem declares :
    (⟨"/labels", .get, item, operation⟩ : Document.Entry).Declares (contractor.definitions document)
      endpoint.check parameter field := by
  have described (definitions : Definitions) : definitions.typeOf parameter = ("string[]", none) := by
    simp [Definitions.typeOf, parameter, SchemaNode.empty]
  refine ⟨List.mem_singleton.mpr rfl, ?_⟩
  rw [check_eq]
  have name : parameter.name = some "tags" := rfl
  rw [Field.ofParameter?, name, Option.map_some]
  have schema : parameter.schema.getD parameter = parameter := rfl
  rw [schema, Definitions.describe, described]
  rfl

theorem isField : field ∈ endpoint.request :=
  List.mem_filterMap.mpr ⟨parameter, declares.isParameter, declares.describes⟩

theorem validate_eq_pass {request : Request}
    (passed : Lifecycle.verdict Lifecycle.defaultTokenHeader ⟨0, 0⟩
      ((request.query.get? "tags[]").getD .null) (.ofMaxLength 2) none = .pass) :
    (Lifecycle.default : Lifecycle Unit).validate ⟨0, 0⟩ endpoint.check request = .pass := by
  rw [Lifecycle.default, Lifecycle.validate_withHeader, Judge.request_eq_pass_iff, check_eq]
  refine ⟨?_, rfl, rfl, rfl⟩
  have fields : Checker.entriesOf ((∅ : CheckModel).update .query "tags[]" fun _ => .ofMaxLength 2).query =
      [("tags[]", .ofMaxLength 2)] := rfl
  rw [fields]
  simp [Judge.rejects, Checker.valueIn, passed]

def request (name : String) (text : String) : Request :=
  (∅ : Request).withQuery name (.array [.string text])

theorem marked_labels_checked :
    ∃ value, (request "tags[]" "ab").held? .query "tags[]" = some value ∧
      (Lifecycle.default : Lifecycle Unit).outcome ⟨0, 0⟩ value (field.inlineRules.getD ∅) none =
        .pass := by
  have accepted : (Lifecycle.default : Lifecycle Unit).validate ⟨0, 0⟩ endpoint.check
      (request "tags[]" "ab") = .pass := by
    apply validate_eq_pass
    have held : ((request "tags[]" "ab").query.get? "tags[]").getD .null = .array [.string "ab"] := rfl
    rw [held]
    refine Lifecycle.array_passes_maxLength _ _ (by decide) ?_
    intro label member
    obtain rfl := List.mem_singleton.mp member
    rw [Lifecycle.verdict_eq]
    rfl
  have ofEntry := (Lifecycle.bound_values_pass ⟨0, 0⟩ contractor document isOperation isField accepted).2
  have passes := (ofEntry _ rfl).2 parameter declares
  exact ⟨_, rfl, passes .query _ rfl rfl (fun isBody => by cases isBody)⟩

/-- A label of three characters is read under the name of the field, where nothing has been checked. -/
theorem unmarked_label_unchecked :
    endpoint ∈ (Contract.ofDocument contractor document).operations ∧ field ∈ endpoint.request ∧
      (Lifecycle.default : Lifecycle Unit).validate ⟨0, 0⟩ endpoint.check (request "tags" "abc") =
        .pass ∧
      ∃ value, (request "tags" "abc").held? .query field.wireName = some value ∧
        (Lifecycle.default : Lifecycle Unit).outcome ⟨0, 0⟩ value (field.inlineRules.getD ∅) none =
          .fail := by
  refine ⟨isOperation, isField, validate_eq_pass ?_, .array [.string "abc"], rfl, ?_⟩
  · have held : ((request "tags" "abc").query.get? "tags[]").getD .null = .null := rfl
    rw [held, Lifecycle.verdict_eq]
    rfl
  · rw [Lifecycle.default, Lifecycle.outcome_withHeader]
    apply Classical.byContradiction
    intro lenient
    have passed := (Lifecycle.verdict_ne_fail_iff_pass _ _ _ _).mp lenient
    have label := ((Lifecycle.verdict_array_eq_pass_iff _ _ _ _).mp passed).2.1 (.string "abc") (.head _)
    rw [Lifecycle.verdict_eq] at label
    cases label

end Labels
end WireContract

import Mathlib.Data.List.Pairwise
import WireContract.Proofs.Requirement

/-!
The order of parameters. What a sequence of fields makes of any check model is told by the rules that it
gathers at each place, so that parameters whose fields stand apart may come in any order and one that comes
twice in a row changes nothing the second time. Main statements: `foldl_record_congr` and
`parameters_in_any_order`.
-/

namespace WireContract

namespace RuleSet

theorem isEmpty_extend_eq (rules other : RuleSet) :
    (rules.extend other).isEmpty = (rules.isEmpty && other.isEmpty) := by
  cases noRules : rules.isEmpty with
  | false => exact isEmpty_extend other noRules
  | true =>
    obtain rfl := eq_empty_of_isEmpty noRules
    exact congrArg isEmpty (empty_extend other)

theorem extend_comm_of_empty {rules other : RuleSet} (isEmpty : rules = ∅ ∨ other = ∅) :
    rules.extend other = other.extend rules := by
  rcases isEmpty with rfl | rfl
  · exact (empty_extend other).trans (extend_empty other).symm
  · exact (extend_empty rules).trans (empty_extend rules).symm

end RuleSet

namespace Reached

theorem gather_eq_extend (location : Location) (path : String) (rules : RuleSet) (fields : List Reached) :
    gather location path rules fields = rules.extend (gather location path ∅ fields) := by
  unfold gather
  generalize fields.filter (isAt location path) = here
  induction here generalizing rules with
  | nil => exact (RuleSet.extend_empty rules).symm
  | cons field rest ih =>
    have first : (∅ : RuleSet).extend (Parser.recorded field.keywords) = Parser.recorded field.keywords :=
      RuleSet.empty_extend _
    rw [List.foldl_cons, List.foldl_cons, ih, ih (RuleSet.extend ∅ _), first, RuleSet.extend_assoc]

theorem gather_append_eq_extend (location : Location) (path : String) (front back : List Reached) :
    gather location path ∅ (front ++ back) =
      (gather location path ∅ front).extend (gather location path ∅ back) := by
  rw [gather_append, gather_eq_extend]

theorem gather_cons (location : Location) (path : String) (field : Reached) (rest : List Reached) :
    gather location path ∅ (field :: rest) =
      (if field.isAt location path then Parser.recorded field.keywords else ∅).extend
        (gather location path ∅ rest) := by
  have alone : gather location path ∅ [field] =
      if field.isAt location path then Parser.recorded field.keywords else ∅ := by
    rw [gather, List.filter_cons]
    split
    · exact RuleSet.empty_extend _
    · rfl
  rw [← List.singleton_append, gather_append_eq_extend, alone]

theorem gather_eq_empty {location : Location} {path : String} {fields : List Reached}
    (nowhere : ∀ field ∈ fields, ¬ field.isAt location path = true) : gather location path ∅ fields = ∅ := by
  rw [gather, List.filter_eq_nil_iff.mpr nowhere]
  rfl

end Reached

namespace CheckModel

theorem ext_rules? {left right : CheckModel}
    (sections : ∀ location, (left.section? location).isSome = (right.section? location).isSome)
    (rules : ∀ location path, left.rules? location path = right.rules? location path) : left = right := by
  refine ext_section? fun location => ?_
  have present := sections location
  cases inLeft : left.section? location with
  | none =>
    rw [inLeft] at present
    exact (Option.isSome_eq_false_iff.mp present.symm |> Option.isNone_iff_eq_none.mp).symm
  | some fields =>
    cases inRight : right.section? location with
    | none => rw [inLeft, inRight] at present; cases present
    | some others =>
      refine congrArg some (Dict.ext_get? fun path => ?_)
      have same := rules location path
      rw [rules?, rules?, inLeft, inRight] at same
      exact same

theorem rules?_extendAt (model : CheckModel) (location : Location) (path : String) (rules : RuleSet) :
    (model.extendAt location path rules).rules? location path =
      if rules.isEmpty then model.rules? location path
      else some ((model.rulesAt location path).extend rules) := by
  rw [extendAt]
  split
  · rfl
  · rw [rules?_update, if_pos ⟨rfl, rfl⟩]

/-- At one place all fields together do what they gather there does. -/
theorem rules?_foldl_record (fields : List Reached) (model : CheckModel) (location : Location)
    (path : String) :
    (fields.foldl Parser.record model).rules? location path =
      (model.extendAt location path (Reached.gather location path ∅ fields)).rules? location path := by
  induction fields generalizing model with
  | nil => rfl
  | cons field rest ih =>
    rw [List.foldl_cons, ih, Reached.gather_cons]
    cases here : field.isAt location path with
    | true =>
      obtain ⟨rfl, rfl⟩ := Reached.isAt_iff.mp here
      rw [if_pos rfl, Parser.record_eq, extendAt_extendAt]
    | false =>
      have untouched : (Parser.record model field).rules? location path = model.rules? location path := by
        rw [rules?_record, here, Bool.false_and, if_neg Bool.false_ne_true]
      have noRules (rules : RuleSet) : (∅ : RuleSet).extend rules = rules := RuleSet.empty_extend rules
      rw [if_neg Bool.false_ne_true, noRules, rules?_extendAt, rules?_extendAt, rulesAt, untouched, rulesAt]

theorem isSome_section?_record (model : CheckModel) (field : Reached) (location : Location) :
    ((Parser.record model field).section? location).isSome = true ↔
      (model.section? location).isSome = true ∨
        field.location = location ∧ (Parser.recorded field.keywords).isEmpty = false := by
  rw [Parser.record_eq, extendAt]
  cases noRules : (Parser.recorded field.keywords).isEmpty with
  | true => simp
  | false =>
    rw [if_neg Bool.false_ne_true, section?_update]
    by_cases here : location = field.location
    · simp [here]
    · simp [here, Ne.symm here]

theorem isSome_section?_foldl_record (fields : List Reached) (model : CheckModel) (location : Location) :
    ((fields.foldl Parser.record model).section? location).isSome = true ↔
      (model.section? location).isSome = true ∨
        ∃ path, (Reached.gather location path ∅ fields).isEmpty = false := by
  induction fields generalizing model with
  | nil => exact (or_iff_left fun ⟨_, nonempty⟩ => Bool.false_ne_true nonempty.symm).symm
  | cons field rest ih =>
    have first : (∃ path, (if field.isAt location path then Parser.recorded field.keywords else ∅).isEmpty =
        false) ↔ field.location = location ∧ (Parser.recorded field.keywords).isEmpty = false := by
      constructor
      · rintro ⟨path, nonempty⟩
        split at nonempty
        · next here => exact ⟨(Reached.isAt_iff.mp here).1.symm, nonempty⟩
        · cases nonempty
      · rintro ⟨rfl, nonempty⟩
        exact ⟨field.path, by rw [if_pos (Reached.isAt_iff.mpr ⟨rfl, rfl⟩)]; exact nonempty⟩
    simp only [List.foldl_cons, ih, isSome_section?_record, Reached.gather_cons, RuleSet.isEmpty_extend_eq,
      Bool.and_eq_false_iff, exists_or, first, or_assoc]

theorem foldl_record_congr {fields others : List Reached}
    (same : ∀ location path, Reached.gather location path ∅ fields = Reached.gather location path ∅ others)
    (model : CheckModel) : fields.foldl Parser.record model = others.foldl Parser.record model := by
  refine ext_rules? (fun location => ?_) fun location path => ?_
  · rw [Bool.eq_iff_iff, isSome_section?_foldl_record, isSome_section?_foldl_record]
    simp only [same]
  · rw [rules?_foldl_record, rules?_foldl_record, same]

theorem foldl_record_comm {front back : List Reached}
    (apart : ∀ first ∈ front, ∀ second ∈ back,
      ¬ (first.location = second.location ∧ first.path = second.path)) (model : CheckModel) :
    (front ++ back).foldl Parser.record model = (back ++ front).foldl Parser.record model := by
  refine foldl_record_congr (fun location path => ?_) model
  rw [Reached.gather_append_eq_extend, Reached.gather_append_eq_extend]
  apply RuleSet.extend_comm_of_empty
  by_cases inFront : ∃ first ∈ front, first.isAt location path = true
  · obtain ⟨first, isFirst, here⟩ := inFront
    obtain ⟨rfl, rfl⟩ := Reached.isAt_iff.mp here
    exact .inr (Reached.gather_eq_empty fun second isSecond alsoHere =>
      apart first isFirst second isSecond (Reached.isAt_iff.mp alsoHere))
  · exact .inl (Reached.gather_eq_empty fun first isFirst here => inFront ⟨first, isFirst, here⟩)

theorem foldl_record_twice (fields : List Reached) (model : CheckModel) :
    (fields ++ fields).foldl Parser.record model = fields.foldl Parser.record model :=
  foldl_record_congr (fun location path => by
    rw [Reached.gather_append_eq_extend, RuleSet.extend_self]) model

end CheckModel

namespace SchemaNode

variable {definitions : Definitions}

theorem place_of_mem_reached {parameter : SchemaNode} {location : Location} {own : String}
    (place : parameter.place? = some (location, own)) {field : Reached}
    (member : field ∈ parameter.reached definitions) :
    field.location = location ∧ (field.path = own ∨ location = .body) := by
  refine ⟨location_of_mem_reached place member, ?_⟩
  simp only [reached, place, steps_eq, List.mem_map, Prod.exists, Walk.mem_fields_iff, List.mem_append]
    at member
  obtain ⟨path, keywords, isOwn | isDeeper, rfl⟩ := member
  · rw [Walk.reach] at isOwn
    split at isOwn
    · cases isOwn
    · cases List.mem_singleton.mp isOwn
      exact .inl rfl
  · cases isSchema : parameter.schema with
    | none => rw [isSchema] at isDeeper; cases isDeeper
    | some schema =>
      rw [isSchema, steps.bodySteps] at isDeeper
      split at isDeeper
      · next isBody => exact .inr (beq_iff_eq.mp isBody)
      · cases isDeeper

def Apart (first second : SchemaNode) : Prop :=
  ∀ place, first.place? = some place → second.place? ≠ some place

instance : Std.Symm Apart := ⟨fun _ _ apart place isSecond isFirst => apart place isFirst isSecond⟩

/-- Parameters with different places reach no place in common. -/
theorem Apart.reached {first second : SchemaNode} (apart : first.Apart second) :
    ∀ field ∈ first.reached definitions, ∀ other ∈ second.reached definitions,
      ¬ (field.location = other.location ∧ field.path = other.path) := by
  intro field isField other isOther ⟨sameLocation, samePath⟩
  cases place : first.place? with
  | none => rw [SchemaNode.reached, place] at isField; cases isField
  | some own =>
    cases otherPlace : second.place? with
    | none => rw [SchemaNode.reached, otherPlace] at isOther; cases isOther
    | some another =>
      obtain ⟨location, path⟩ := own
      obtain ⟨otherLocation, otherPath⟩ := another
      obtain ⟨rfl, isPath⟩ := place_of_mem_reached place isField
      obtain ⟨rfl, isOtherPath⟩ := place_of_mem_reached otherPlace isOther
      refine apart _ place (otherPlace.trans ?_)
      rw [← sameLocation]
      -- two places in the body are the same, the whole body
      by_cases isBody : field.location = .body
      · rw [isBody] at place
        rw [← sameLocation, isBody] at otherPlace
        rw [path_of_body place, path_of_body otherPlace]
      · have isOwn := isPath.resolve_right isBody
        have isAnother := isOtherPath.resolve_right (sameLocation ▸ isBody)
        rw [← isOwn, ← isAnother, samePath]

end SchemaNode

namespace Compiler

variable (header : String) (definitions : Definitions)

theorem parameter_parameter (model : CheckModel) (first second : SchemaNode) :
    Compiler.parameter ⟨definitions, Parser.record⟩
        (Compiler.parameter ⟨definitions, Parser.record⟩ model first) second =
      (first.reached definitions ++ second.reached definitions).foldl Parser.record model :=
  List.foldl_append.symm

theorem foldl_parameter_of_perm {parameters others : List SchemaNode} (perm : parameters.Perm others)
    (distinct : (parameters.filterMap SchemaNode.place?).Nodup) (model : CheckModel) :
    parameters.foldl (Compiler.parameter ⟨definitions, Parser.record⟩) model =
      others.foldl (Compiler.parameter ⟨definitions, Parser.record⟩) model := by
  have apart : parameters.Pairwise SchemaNode.Apart := by
    rw [List.Nodup, List.pairwise_filterMap] at distinct
    exact distinct.imp fun differ place isFirst isSecond => differ place isFirst place isSecond rfl
  refine perm.foldl_eq' (fun first isFirst second isSecond model => ?_) model
  by_cases same : first = second
  · rw [same]
  · rw [parameter_parameter, parameter_parameter]
    exact CheckModel.foldl_record_comm (apart.forall isFirst isSecond same).reached model

/-- Parameters of which no two have one place make the same check model of an operation in whatever order they
come, and whether its path declares them or itself. A parameter that is compiled into any check model twice in
a row changes nothing the second time. -/
theorem parameters_in_any_order :
    let compiler : Compiler := ⟨definitions, (Lifecycle.withHeader header).folding⟩
    (∀ (item other : PathItem) (operation another : Operation),
      ((parametersOf item operation).filterMap SchemaNode.place?).Nodup →
      (parametersOf item operation).Perm (parametersOf other another) →
      compiler.operation item operation = compiler.operation other another) ∧
    ∀ (model : CheckModel) (parameter : SchemaNode),
      compiler.parameter (compiler.parameter model parameter) parameter =
        compiler.parameter model parameter := by
  intro compiler
  have folds : compiler = ⟨definitions, Parser.record⟩ :=
    congrArg (Compiler.mk definitions) (Lifecycle.folding_withHeader header)
  rw [folds]
  constructor
  · intro item other operation another distinct perm
    exact foldl_parameter_of_perm definitions perm distinct ∅
  · intro model parameter
    rw [parameter_parameter]
    exact CheckModel.foldl_record_twice (parameter.reached definitions) model

end Compiler

namespace Checkout

def token : SchemaNode :=
  { SchemaNode.empty with
    name := some "X-Token", location := some "header", required := some (.flag true) }

def text (most : Nat) : SchemaNode :=
  { SchemaNode.empty with rules := { RuleSet.empty with maxLength := some most } }

def tags : SchemaNode :=
  { SchemaNode.empty with
    name := some "tags", location := some "query", type := some "array", items := some (text 5) }

def cart : SchemaNode := .inBody { SchemaNode.empty with properties := some [("note", text 20)] }

def operation (parameters : List SchemaNode) : Operation := ⟨some "checkout", [], none, parameters, ∅⟩

def item (shared : List SchemaNode) : PathItem := ⟨fun _ => none, shared⟩

theorem checkout_in_any_order :
    let compiler : Compiler := ⟨⟨∅, Definitions.defaultRoot⟩, (Lifecycle.default : Lifecycle Unit).folding⟩
    let parameters := Compiler.parametersOf (item [token]) (operation [tags, cart])
    parameters.filterMap SchemaNode.place? =
        [(.header, "X-Token"), (.query, "tags[]"), (.body, "$body$")] ∧
      (parameters.filterMap SchemaNode.place?).Nodup ∧
      parameters.Perm (Compiler.parametersOf (item []) (operation [cart, tags, token])) ∧
      compiler.operation (item [token]) (operation [tags, cart]) =
        compiler.operation (item []) (operation [cart, tags, token]) := by
  intro compiler parameters
  have places : parameters.filterMap SchemaNode.place? =
      [(.header, "X-Token"), (.query, "tags[]"), (.body, "$body$")] := rfl
  have distinct : (parameters.filterMap SchemaNode.place?).Nodup := by rw [places]; decide
  have perm : parameters.Perm (Compiler.parametersOf (item []) (operation [cart, tags, token])) :=
    (List.reverse_perm parameters).symm
  exact ⟨places, distinct, perm,
    (Compiler.parameters_in_any_order Lifecycle.defaultTokenHeader _).1 _ _ _ _ distinct perm⟩

end Checkout
end WireContract

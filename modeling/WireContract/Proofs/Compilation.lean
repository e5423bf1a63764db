import WireContract.Schema.Compilation

/-!
What compilation makes of a list of reached fields: at every place the keywords of the fields reached
there, each written over those before it. Main statements: `transcribe_eq_record`, `folding_withHeader` and
`rulesAt_foldl_record`.
-/

namespace WireContract

namespace RuleSet

theorem eq_empty_of_isEmpty {rules : RuleSet} (isEmpty : rules.isEmpty = true) : rules = ∅ := by
  have absent (rule : Rule) : rules.has rule = false := by
    cases present : rules.has rule with
    | false => rfl
    | true =>
      have member := mem_keys.mpr present
      rw [List.isEmpty_iff.mp isEmpty] at member
      cases member
  have required := absent .required
  have maxLength := absent .maxLength
  have minLength := absent .minLength
  have xMaxLength := absent .xMaxLength
  have xMinLength := absent .xMinLength
  have maximum := absent .maximum
  have minimum := absent .minimum
  have pattern := absent .pattern
  have oneOf := absent .oneOf
  have maxItems := absent .maxItems
  have minItems := absent .minItems
  cases rules
  simp only [has, Option.isSome_eq_false_iff, Option.isNone_iff_eq_none] at *
  subst required maxLength minLength xMaxLength xMinLength maximum minimum pattern oneOf maxItems
  subst minItems
  rfl

theorem restrict_extend_restrict (rules : RuleSet) (keep more : Rule → Bool) :
    (rules.restrict keep).extend (rules.restrict more) =
      rules.restrict fun rule => keep rule || more rule := by
  have either {α : Type} (kept keptToo : Bool) (value : Option α) :
      (if keptToo then value else none).or (if kept then value else none) =
        if kept || keptToo then value else none := by
    cases kept <;> cases keptToo <;> simp
  simp only [restrict, extend, either]

theorem isEmpty_extend {rules : RuleSet} (other : RuleSet) (nonempty : rules.isEmpty = false) :
    (rules.extend other).isEmpty = false := by
  rw [isEmpty, List.isEmpty_eq_false_iff_exists_mem] at nonempty ⊢
  obtain ⟨rule, member⟩ := nonempty
  refine ⟨rule, mem_keys.mpr ?_⟩
  rw [has_extend, mem_keys.mp member, Bool.true_or]

end RuleSet

namespace SchemaNode

theorem recorded_keywords (node : SchemaNode) (listed : Bool) :
    Parser.recorded (node.keywords listed) = node.keywords listed := by
  cases required : node.isRequired || listed <;>
    simp [Parser.recorded, keywords, RuleSet.isRequired, required]

end SchemaNode

namespace CheckModel

theorem rulesAt_update (model : CheckModel) (location other : Location) (path otherPath : String)
    (change : RuleSet → RuleSet) :
    (model.update location path change).rulesAt other otherPath =
      if other = location ∧ otherPath = path then change (model.rulesAt location path)
      else model.rulesAt other otherPath := by
  simp only [rulesAt, rules?_update]
  split <;> rfl

theorem section?_update (model : CheckModel) (location other : Location) (path : String)
    (change : RuleSet → RuleSet) :
    (model.update location path change).section? other =
      if other = location then
        some (((model.section? location).getD ∅).insert path (change (model.rulesAt location path)))
      else model.section? other := by
  have rules : (((model.section? location).getD ∅).get? path).getD ∅ = model.rulesAt location path := by
    rw [rulesAt, rules?]
    cases model.section? location <;> rfl
  simp only [update, section?_withSection, rules]

theorem update_update (model : CheckModel) (location : Location) (path : String)
    (first second : RuleSet → RuleSet) :
    (model.update location path first).update location path second =
      model.update location path fun rules => second (first rules) := by
  apply ext_section?
  intro other
  simp only [section?_update]
  by_cases same : other = location
  · subst same
    simp only [if_true, Option.getD_some, rulesAt_update, and_self, Option.some.injEq]
    apply Dict.ext_get?
    intro key
    simp only [Dict.get?_insert]
    split <;> rfl
  · simp only [same, if_false]

theorem extendAt_extendAt (model : CheckModel) (location : Location) (path : String)
    (earlier later : RuleSet) :
    (model.extendAt location path earlier).extendAt location path later =
      model.extendAt location path (earlier.extend later) := by
  cases noEarlier : earlier.isEmpty with
  | true =>
    obtain rfl := RuleSet.eq_empty_of_isEmpty noEarlier
    have extended : RuleSet.extend ∅ later = later := RuleSet.empty_extend later
    simp only [extendAt, noEarlier, if_true, extended]
  | false =>
    cases noLater : later.isEmpty with
    | true =>
      obtain rfl := RuleSet.eq_empty_of_isEmpty noLater
      have extended : earlier.extend ∅ = earlier := RuleSet.extend_empty earlier
      simp only [extendAt, noLater, if_true, extended]
    | false =>
      simp only [extendAt, noEarlier, noLater, RuleSet.isEmpty_extend later noEarlier,
        Bool.false_eq_true, if_false, update_update, RuleSet.extend_assoc]

end CheckModel

namespace Parser

theorem record_eq (model : CheckModel) (reached : Reached) :
    record model reached =
      model.extendAt reached.location reached.path (recorded reached.keywords) := rfl

/-- The keywords that are recorded before any is copied: `required`, if it is on. -/
def demanded (keywords : RuleSet) : RuleSet :=
  if keywords.isRequired then { RuleSet.empty with required := some true } else ∅

theorem demand_eq (model : CheckModel) (reached : Reached) :
    demand model reached =
      model.extendAt reached.location reached.path (demanded reached.keywords) := by
  unfold demand demanded
  cases reached.keywords.isRequired with
  | true => rfl
  | false => rfl

theorem foldl_copy (reached : Reached) (model : CheckModel) (names : List String) (rules : RuleSet) :
    names.foldl (copy reached) (model.extendAt reached.location reached.path rules) =
      model.extendAt reached.location reached.path
        (names.foldl (fun rules name => rules.extend (reached.keywords.onlyNamed name)) rules) := by
  induction names generalizing rules with
  | nil => rfl
  | cons name rest ih => rw [List.foldl_cons, copy, CheckModel.extendAt_extendAt, ih, List.foldl_cons]

def copiedRules : List Rule :=
  [.xMaxLength, .xMinLength, .minLength, .maxLength, .maximum, .minimum, .maxItems, .minItems, .pattern,
    .oneOf]

theorem copied_eq : copied = copiedRules.map Rule.name := rfl

theorem contains_copiedRules (rule : Rule) : copiedRules.contains rule = (rule != .required) := by
  cases rule <;> rfl

theorem foldl_onlyNamed (keywords rules : RuleSet) (copies : List Rule) :
    (copies.map Rule.name).foldl (fun rules name => rules.extend (keywords.onlyNamed name)) rules =
      rules.extend (keywords.restrict copies.contains) := by
  induction copies generalizing rules with
  | nil => exact (RuleSet.extend_empty rules).symm
  | cons copied rest ih =>
    have both : (keywords.only copied).extend (keywords.restrict rest.contains) =
        keywords.restrict (copied :: rest).contains :=
      RuleSet.restrict_extend_restrict keywords (· == copied) rest.contains
    rw [List.map_cons, List.foldl_cons, RuleSet.onlyNamed_name, ih, RuleSet.extend_assoc, both]

theorem foldl_copied (keywords : RuleSet) :
    copied.foldl (fun rules name => rules.extend (keywords.onlyNamed name)) (demanded keywords) =
      recorded keywords := by
  have copies : keywords.restrict copiedRules.contains =
      { keywords with required := none } := by
    simp only [RuleSet.restrict, contains_copiedRules]
    rfl
  rw [copied_eq, foldl_onlyNamed, copies]
  cases required : keywords.isRequired <;>
    simp [demanded, recorded, required, RuleSet.extend, RuleSet.empty, EmptyCollection.emptyCollection]

/-- To fold keywords in one by one is to record them all at once. -/
theorem transcribe_eq_record : transcribe = record := by
  funext model reached
  rw [transcribe, demand_eq, foldl_copy, foldl_copied, record_eq]

end Parser

namespace Lifecycle

variable {σ : Type}

theorem parsers_withHeader (header : String) :
    (withHeader header : Lifecycle σ).parsers.subscriptions = [⟨.basic, false⟩] := by
  simp [withHeader, registerParser, register, empty, Channel.add, Channel.new, Channel.live]

theorem compile_withHeader (header : String) (model : CheckModel) (reached : Reached) (notes : σ) :
    ((withHeader header : Lifecycle σ).compile model reached).run notes =
      ((Parser.record model reached, withHeader header), notes) := by
  rw [← Parser.transcribe_eq_record]
  simp only [compile, compileField]
  rw [parsers_withHeader]
  rfl

theorem folding_withHeader (header : String) :
    (withHeader header).folding = Parser.record := by
  funext model reached
  simp only [folding, compile_withHeader]

end Lifecycle

namespace Reached

def isAt (location : Location) (path : String) (field : Reached) : Bool :=
  field.location == location && field.path == path

theorem isAt_iff {location : Location} {path : String} {field : Reached} :
    field.isAt location path = true ↔ location = field.location ∧ path = field.path := by
  rw [isAt, Bool.and_eq_true, beq_iff_eq, beq_iff_eq, eq_comm, @eq_comm _ path]

/-- The rules at a place once the fields are folded in: the keywords of those that stand there, in order,
each written over what was there before. -/
def gather (location : Location) (path : String) (rules : RuleSet) (fields : List Reached) : RuleSet :=
  (fields.filter (isAt location path)).foldl
    (fun rules field => rules.extend (Parser.recorded field.keywords)) rules

theorem gather_append (location : Location) (path : String) (rules : RuleSet)
    (front back : List Reached) :
    gather location path rules (front ++ back) =
      gather location path (gather location path rules front) back := by
  simp only [gather, List.filter_append, List.foldl_append]

end Reached

namespace CheckModel

theorem rules?_record (model : CheckModel) (field : Reached) (location : Location) (path : String) :
    (Parser.record model field).rules? location path =
      if field.isAt location path && !(Parser.recorded field.keywords).isEmpty then
        some ((model.rulesAt location path).extend (Parser.recorded field.keywords))
      else model.rules? location path := by
  rw [Parser.record_eq, extendAt]
  cases (Parser.recorded field.keywords).isEmpty with
  | true => rw [if_pos rfl, Bool.not_true, Bool.and_false, if_neg Bool.false_ne_true]
  | false =>
    rw [if_neg Bool.false_ne_true, rules?_update, Bool.not_false, Bool.and_true]
    by_cases here : location = field.location ∧ path = field.path
    · obtain ⟨rfl, rfl⟩ := here
      simp [Reached.isAt]
    · have elsewhere : ¬ field.isAt location path = true := fun isAt => here (Reached.isAt_iff.mp isAt)
      rw [if_neg here, if_neg elsewhere]

theorem rulesAt_record (model : CheckModel) (field : Reached) (location : Location)
    (path : String) :
    (Parser.record model field).rulesAt location path =
      if field.isAt location path then
        (model.rulesAt location path).extend (Parser.recorded field.keywords)
      else model.rulesAt location path := by
  rw [rulesAt, rules?_record]
  cases field.isAt location path with
  | false => rfl
  | true =>
    cases noRules : (Parser.recorded field.keywords).isEmpty with
    | true =>
      rw [RuleSet.eq_empty_of_isEmpty noRules]
      exact (RuleSet.extend_empty _).symm
    | false => rfl

theorem rulesAt_foldl_record (fields : List Reached) (model : CheckModel) (location : Location)
    (path : String) :
    (fields.foldl Parser.record model).rulesAt location path =
      Reached.gather location path (model.rulesAt location path) fields := by
  induction fields generalizing model with
  | nil => rfl
  | cons field rest ih =>
    rw [List.foldl_cons, ih, rulesAt_record]
    cases here : field.isAt location path <;> simp [Reached.gather, here]

theorem record_section?_of_ne {model : CheckModel} {field : Reached} {location : Location}
    (elsewhere : field.location ≠ location) :
    (Parser.record model field).section? location = model.section? location := by
  simp only [Parser.record]
  split
  · rfl
  · simp [update, section?_withSection, Ne.symm elsewhere]

theorem foldl_record_section?_of_ne {fields : List Reached} {model : CheckModel}
    {location : Location} (elsewhere : ∀ field ∈ fields, field.location ≠ location) :
    (fields.foldl Parser.record model).section? location = model.section? location := by
  induction fields generalizing model with
  | nil => rfl
  | cons field rest ih =>
    rw [List.foldl_cons, ih fun other member => elsewhere other (.tail _ member),
      record_section?_of_ne (elsewhere field (.head _))]

end CheckModel

namespace SchemaNode

def inBody (schema : SchemaNode) : SchemaNode :=
  { SchemaNode.empty with name := some "b", location := some "body", schema := some schema }

theorem location_of_mem_reached {definitions : Definitions} {parameter : SchemaNode}
    {location : Location} {path : String} (place : parameter.place? = some (location, path))
    {field : Reached} (member : field ∈ parameter.reached definitions) :
    field.location = location := by
  simp only [reached, place, List.mem_map] at member
  obtain ⟨reached, _, rfl⟩ := member
  rfl

end SchemaNode

def Operation.ofParameter (parameter : SchemaNode) : Operation := ⟨none, [], none, [parameter], ∅⟩

def PathItem.empty : PathItem := ⟨fun _ => none, []⟩

namespace Compiler

variable {definitions : Definitions} {item : PathItem} {operation : Operation}
  {parameter : SchemaNode}

theorem operation_eq (header : String) (item : PathItem) (operation : Operation) :
    Compiler.operation ⟨definitions, (Lifecycle.withHeader header).folding⟩ item operation =
      ((parametersOf item operation).flatMap (SchemaNode.reached definitions)).foldl Parser.record ∅ := by
  rw [Compiler.operation, Lifecycle.folding_withHeader, List.foldl_flatMap]
  rfl

theorem operation_of_alone (header : String)
    (alone : parametersOf item operation = [parameter]) :
    Compiler.operation ⟨definitions, (Lifecycle.withHeader header).folding⟩ item operation =
      (parameter.reached definitions).foldl Parser.record ∅ := by
  rw [operation_eq, alone, List.flatMap_singleton]

def ofParameter (definitions : Definitions) (parameter : SchemaNode) : CheckModel :=
  Compiler.operation ⟨definitions, (Lifecycle.default : Lifecycle Unit).folding⟩ .empty
    (.ofParameter parameter)

theorem ofParameter_eq (definitions : Definitions) (parameter : SchemaNode) :
    ofParameter definitions parameter = (parameter.reached definitions).foldl Parser.record ∅ :=
  operation_of_alone Lifecycle.defaultTokenHeader rfl

theorem operation_section?_of_alone (header : String)
    (alone : parametersOf item operation = [parameter]) {location other : Location} {path : String}
    (place : parameter.place? = some (location, path)) (elsewhere : location ≠ other) :
    (Compiler.operation ⟨definitions, (Lifecycle.withHeader header).folding⟩ item operation).section?
      other = none := by
  rw [operation_of_alone header alone, CheckModel.foldl_record_section?_of_ne]
  · cases other <;> rfl
  · intro field member
    rw [SchemaNode.location_of_mem_reached place member]
    exact elsewhere

end Compiler
end WireContract

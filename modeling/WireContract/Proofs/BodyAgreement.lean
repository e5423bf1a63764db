import WireContract.Proofs.WalkConformance

/-!
Checking a body against the check model of its parameter agrees with holding it against the parameter's
schema. Main statement on the way: `rulesAt_operation`, the rules that the check model has at a path.
-/

namespace WireContract

namespace BodyField

theorem gather_eq_rulesAt (path : String) (rules : RuleSet) (fields : List (String × RuleSet)) :
    Reached.gather .body path rules (fields.map fun (path, keywords) => ⟨.body, path, keywords⟩) =
      (((fields.map fun field =>
            ((BodyPath.segments field.1, Parser.recorded field.2) : BodyField)).filter
          fun field => field.1 == BodyPath.segments path).map Prod.snd).foldl
        RuleSet.extend rules := by
  induction fields generalizing rules with
  | nil => rfl
  | cons field rest ih =>
    have head : Reached.gather .body path rules
        ((field :: rest).map fun (path, keywords) => ⟨.body, path, keywords⟩) =
        Reached.gather .body path
          (Reached.gather .body path rules [⟨.body, field.1, field.2⟩])
          (rest.map fun (path, keywords) => ⟨.body, path, keywords⟩) :=
      Reached.gather_append .body path rules [⟨.body, field.1, field.2⟩] _
    rw [head, ih]
    by_cases here : field.1 = path
    · simp [Reached.gather, Reached.isAt, here]
    · have elsewhere : BodyPath.segments field.1 ≠ BodyPath.segments path :=
        fun same => here (BodyPath.segments_injective same)
      simp [Reached.gather, Reached.isAt, here, elsewhere]

theorem rulesAt_operation (header : String) {definitions : Definitions} {item : PathItem}
    {operation : Operation} {parameter : SchemaNode}
    (alone : Compiler.parametersOf item operation = [parameter])
    (place : parameter.place? = some (.body, BodyPath.wholeBody)) (path : String) :
    (Compiler.operation ⟨definitions, (Lifecycle.withHeader header).folding⟩ item operation).rulesAt
        .body path =
      rulesAt (BodyPath.segments path) (ofSteps (parameter.walked definitions)) := by
  have noRules : (∅ : CheckModel).rulesAt .body path = ∅ := rfl
  rw [Compiler.operation_of_alone header alone, CheckModel.rulesAt_foldl_record, noRules,
    SchemaNode.reached, SchemaNode.walked, place]
  simp only
  rw [gather_eq_rulesAt, rulesAt, ofSteps, List.foldl_map]

end BodyField

namespace Lifecycle

def Passes (lifecycle : Lifecycle Unit) (now : Instant) (value : Json) (rules : RuleSet) : Prop :=
  lifecycle.outcome now value rules none ≠ .fail

theorem passes_empty (now : Instant) (value : Json) : (default : Lifecycle Unit).Passes now value ∅ := by
  rw [Passes, default, outcome_withHeader, verdict_empty]
  decide

/-- A request fails the check model of a body parameter exactly if its body does not conform to the
parameter. -/
theorem validate_eq_fail_iff_not_conforms (now : Instant) (request : Request)
    {definitions : Definitions} {item : PathItem} {operation : Operation}
    {parameter schema : SchemaNode} (acyclic : definitions.Acyclic)
    (regular : ∀ name node, definitions.nodes.get? name = some node →
      SchemaNode.Regular definitions node)
    (alone : Compiler.parametersOf item operation = [parameter])
    (place : parameter.place? = some (.body, BodyPath.wholeBody))
    (isSchema : parameter.schema = some schema)
    (object : schema.reference.isSome = true ∨ schema.properties.isSome = true)
    (regularSchema : SchemaNode.Regular definitions schema) :
    (default : Lifecycle Unit).validate now
        (Compiler.operation ⟨definitions, (default : Lifecycle Unit).folding⟩ item operation)
        request = .fail ↔
      ¬ definitions.BodyConforms ((default : Lifecycle Unit).Passes now) parameter request.body := by
  have lenient := passes_empty now
  have rejects := Walk.rejects_walked acyclic regular lenient place isSchema object regularSchema
    request.body
  rw [← rejects, default, validate_eq_fail_iff _ _
    (Compiler.operation_section?_of_alone _ alone place (by decide))
    (Compiler.operation_section?_of_alone _ alone place (by decide))
    (Compiler.operation_section?_of_alone _ alone place (by decide))]
  simp only [BodyField.rulesAt_operation _ alone place]
  constructor
  · rintro ⟨path, value, reached, failed⟩
    refine ⟨BodyPath.segments path, value, reached, ?_⟩
    rw [Passes, outcome_withHeader, failed]
    decide
  -- what fails has a field, so its segments are those of a path in the model
  · rintro ⟨path, value, reached, failed⟩
    obtain ⟨field, member, rfl⟩ := BodyField.exists_of_fails lenient failed
    obtain ⟨⟨text, keywords⟩, _, rfl⟩ := List.mem_map.mp member
    refine ⟨text, value, reached, ?_⟩
    rw [Passes, outcome_withHeader, Classical.not_not] at failed
    exact failed

end Lifecycle

namespace Pets

def reference (text : String) : SchemaNode := { SchemaNode.empty with reference := some text }

def label : SchemaNode :=
  { SchemaNode.empty with type := some "string", rules := { RuleSet.empty with maxLength := some 2 } }

def tag : SchemaNode :=
  { SchemaNode.empty with
    properties := some [("label", label)]
    required := some (.fields ["label"]) }

def tags : SchemaNode :=
  { SchemaNode.empty with type := some "array", items := some (reference "#/definitions/Tag") }

def pet : SchemaNode := { SchemaNode.empty with properties := some [("tags", tags)] }

def definitions : Definitions := ⟨Dict.ofList [("Pet", pet), ("Tag", tag)], Definitions.defaultRoot⟩

def parameter : SchemaNode :=
  { SchemaNode.empty with
    name := some "pet"
    location := some "body"
    schema := some (reference "#/definitions/Pet") }

def item : PathItem := ⟨fun _ => none, []⟩

def operation : Operation := ⟨none, [], none, [parameter], ∅⟩

theorem resolves_tag : definitions.Resolves "#/definitions/Tag" "Tag" tag :=
  ⟨by decide, rfl⟩

theorem resolves_pet : definitions.Resolves "#/definitions/Pet" "Pet" pet :=
  ⟨by decide, rfl⟩

theorem cases_of_known {name : String} {node : SchemaNode}
    (known : definitions.nodes.get? name = some node) :
    name = "Pet" ∧ node = pet ∨ name = "Tag" ∧ node = tag := by
  have entry : (name, node) ∈ [("Pet", pet), ("Tag", tag)] := Dict.get?_eq_some_iff.mp known
  simpa using entry

theorem acyclic : definitions.Acyclic := by
  have refers : ∀ name other, definitions.Refers name other → name = "Pet" ∧ other = "Tag" := by
    rintro name other ⟨node, known, member⟩
    have ofPet : definitions.references pet = ["Tag"] := rfl
    have ofTag : definitions.references tag = [] := rfl
    rcases cases_of_known known with ⟨isPet, rfl⟩ | ⟨_, rfl⟩
    · rw [ofPet] at member
      exact ⟨isPet, List.mem_singleton.mp member⟩
    · rw [ofTag] at member
      cases member
  intro name reaches
  have first := Relation.TransGen.head'_iff.mp reaches
  have last := Relation.TransGen.tail'_iff.mp reaches
  obtain ⟨_, step, _⟩ := first
  obtain ⟨_, _, step'⟩ := last
  have isPet := (refers _ _ step).1
  have isTag := (refers _ _ step').2
  rw [isPet] at isTag
  exact absurd isTag (by decide)

theorem regular_label : SchemaNode.Regular definitions label :=
  .intro rfl (List.forall_mem_nil _) List.nodup_nil (fun _ refers => by cases refers)
    (fun isArray => absurd isArray (by decide)) (List.forall_mem_nil _) (fun _ isItems => by cases isItems)

theorem regular_reference {text name : String} {target : SchemaNode}
    (resolves : definitions.Resolves text name target) (isTarget : target.IsTarget) :
    SchemaNode.Regular definitions (reference text) := by
  refine .intro rfl (List.forall_mem_nil _) List.nodup_nil ?_ (fun isArray => by cases isArray)
    (List.forall_mem_nil _) (fun _ isItems => by cases isItems)
  intro other refers
  obtain rfl := Option.some.inj refers
  exact ⟨rfl, rfl, name, target, resolves, isTarget⟩

theorem regular_object {key : String} {property : SchemaNode} {required : Option Required}
    (isKey : BodyPath.IsKey key) (regular : SchemaNode.Regular definitions property) :
    SchemaNode.Regular definitions
      { SchemaNode.empty with properties := some [(key, property)], required := required } := by
  refine .intro rfl ?_ (by simp [SchemaNode.members]) (fun _ refers => by cases refers)
    (fun isArray => by cases isArray) ?_ (fun _ isItems => by cases isItems)
  · intro member isMember
    obtain rfl := List.mem_singleton.mp isMember
    exact isKey
  · intro member isMember
    obtain rfl := List.mem_singleton.mp isMember
    exact regular

theorem regular_tag : SchemaNode.Regular definitions tag :=
  regular_object ⟨by decide, by decide, by decide, by decide⟩ regular_label

theorem regular_tags : SchemaNode.Regular definitions tags := by
  have refers := regular_reference resolves_tag (.inl ⟨rfl, rfl⟩)
  refine .intro rfl (List.forall_mem_nil _) List.nodup_nil (fun _ refers => by cases refers) ?_
    (List.forall_mem_nil _) ?_
  · intro _
    refine ⟨rfl, rfl, rfl, ?_⟩
    intro items isItems
    obtain rfl := Option.some.inj isItems
    exact .inl rfl
  · intro items isItems
    obtain rfl := Option.some.inj isItems
    exact refers

theorem regular_pet : SchemaNode.Regular definitions pet :=
  regular_object ⟨by decide, by decide, by decide, by decide⟩ regular_tags

theorem regular (name : String) (node : SchemaNode)
    (known : definitions.nodes.get? name = some node) : SchemaNode.Regular definitions node := by
  rcases cases_of_known known with ⟨_, rfl⟩ | ⟨_, rfl⟩
  · exact regular_pet
  · exact regular_tag

def request (tag : Json) : Request :=
  { (∅ : Request) with body := .object [("tags", .array [tag])] }

def labelRules : RuleSet := { RuleSet.empty with required := some true, maxLength := some 2 }

theorem settled_pet : definitions.settled (reference "#/definitions/Pet") = pet := by
  rw [Definitions.settled_of_refers acyclic rfl resolves_pet]
  exact Definitions.settled_of_inline definitions rfl

theorem settled_tag : definitions.settled (reference "#/definitions/Tag") = tag := by
  rw [Definitions.settled_of_refers acyclic rfl resolves_tag]
  exact Definitions.settled_of_inline definitions rfl

theorem rulesOf_label : definitions.rulesOf label true = labelRules := by
  have standsAlone : label.referral? = none := rfl
  rw [Definitions.rulesOf, standsAlone, Definitions.trail_none]
  rfl

theorem rulesOf_tags : definitions.rulesOf tags false = ∅ := by
  have refers : tags.referral? = some "#/definitions/Tag" := rfl
  have standsAlone : tag.reference = none := rfl
  rw [Definitions.rulesOf, refers, Definitions.trail_eq_cons acyclic resolves_tag, standsAlone,
    Definitions.trail_none]
  rfl

section Conforming

variable {passes : Json → RuleSet → Prop} {value : Json}

theorem conforms_label : definitions.Conforms passes label value := by
  have noMembers : label.members = [] := rfl
  rw [Definitions.conforms_iff, Definitions.settled_of_inline definitions rfl, noMembers]
  exact .inr (List.forall_mem_nil _)

theorem conforms_tag (isTag : value.isFalsy = false) :
    definitions.Conforms passes (reference "#/definitions/Tag") value ↔
      passes ((value.get? "label").getD .null) labelRules := by
  have members : tag.members = [("label", label)] := rfl
  have listed : tag.requiredFields.contains "label" = true := rfl
  rw [Definitions.conforms_iff, settled_tag, isTag, members, List.forall_mem_singleton,
    Definitions.PropertyConforms, listed, rulesOf_label]
  constructor
  · rintro (isFalsy | ⟨passed, _⟩)
    · cases isFalsy
    · exact passed
  · intro passed
    exact .inr ⟨passed, fun _ _ => conforms_label⟩

theorem conforms_pet (lenient : ∀ value, passes value ∅) :
    definitions.Conforms passes (reference "#/definitions/Pet") (request value).body ↔
      definitions.Conforms passes (reference "#/definitions/Tag") value := by
  have members : pet.members = [("tags", tags)] := rfl
  have parts : tags.parts "tags" (request value).body = [value] := rfl
  have listed : pet.requiredFields.contains "tags" = false := rfl
  rw [Definitions.conforms_iff, settled_pet, members, List.forall_mem_singleton,
    Definitions.PropertyConforms, parts, listed, rulesOf_tags, List.forall_mem_singleton]
  constructor
  · rintro (isFalsy | ⟨_, conforms⟩)
    · cases isFalsy
    · exact conforms
  · intro conforms
    exact .inr ⟨lenient _, conforms⟩

theorem bodyConforms (lenient : ∀ value, passes value ∅) (isTag : value.isFalsy = false) :
    definitions.BodyConforms passes parameter (request value).body ↔
      passes ((value.get? "label").getD .null) labelRules := by
  have inSchema : definitions.BodyConforms passes parameter (request value).body ↔
      definitions.Conforms passes (reference "#/definitions/Pet") (request value).body := by
    constructor
    · rintro (isFalsy | ⟨_, conforms⟩)
      · cases isFalsy
      · exact conforms _ rfl
    · intro conforms
      refine .inr ⟨lenient _, fun schema isSchema => ?_⟩
      obtain rfl := Option.some.inj isSchema
      exact conforms
  exact inSchema.trans ((conforms_pet lenient).trans (conforms_tag isTag))

end Conforming

def outcome (tag : Json) : Outcome :=
  (Lifecycle.default : Lifecycle Unit).validate ⟨0, 0⟩
    (Compiler.operation ⟨definitions, (Lifecycle.default : Lifecycle Unit).folding⟩ item operation)
    (request tag)

/-- Behind both references a label that is missing fails, and so does one that is too long. -/
theorem pets_need_short_labels :
    outcome (.object []) = .fail ∧ outcome (.object [("label", .string "abc")]) = .fail ∧
      outcome (.object [("label", .string "ab")]) ≠ .fail := by
  have fails {tag : Json} (isTag : tag.isFalsy = false) : outcome tag = .fail ↔
      Lifecycle.verdict Lifecycle.defaultTokenHeader ⟨0, 0⟩ ((tag.get? "label").getD .null) labelRules
        none = .fail := by
    rw [outcome, Lifecycle.validate_eq_fail_iff_not_conforms ⟨0, 0⟩ (request tag) acyclic regular rfl rfl
      rfl (.inl rfl) (regular_reference resolves_pet (.inl ⟨rfl, rfl⟩)),
      bodyConforms (Lifecycle.passes_empty ⟨0, 0⟩) isTag, Lifecycle.Passes, Classical.not_not,
      Lifecycle.default, Lifecycle.outcome_withHeader]
  rw [fails rfl, fails rfl, ne_eq, fails rfl]
  refine ⟨?_, ?_, ?_⟩ <;> rw [Lifecycle.verdict_eq] <;> decide

end Pets

end WireContract

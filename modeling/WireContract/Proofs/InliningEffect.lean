import Mathlib.Data.List.Forall2
import WireContract.Proofs.Inlining

namespace WireContract

namespace Walk

open Definitions

structure Replacement where
  definitions : Definitions
  others : Definitions
  reference : String
  name : String
  target : SchemaNode
  inlined : definitions.Inlined reference target others
  resolves : definitions.Resolves reference name target
  acyclic : ¬ Relation.TransGen definitions.Refers name name

namespace Replacement

variable (replacement : Replacement)

abbrev Alike (entering names others : List String) : Prop :=
  replacement.definitions.OpenAlike replacement.name entering names others

def SameBeyond (names : List String) (path : String) (node : SchemaNode) : Prop :=
  ∀ others other, replacement.Alike (replacement.definitions.references node) names others →
    SchemaNode.Inlined replacement.reference replacement.target node other →
    effect (beyond replacement.definitions names path node.reference node) =
      effect (beyond replacement.others others path other.reference other)

def SameProperties (names : List String) (path : String) (required : List String)
    (members : List (String × SchemaNode)) : Prop :=
  ∀ others more, replacement.Alike (replacement.definitions.ofMembers members) names others →
    SchemaNode.InlinedMembers replacement.reference replacement.target members more →
    effect (properties replacement.definitions names path required members) =
      effect (properties replacement.others others path required more)

def SameBranches (names : List String) (path : String) (branches : List SchemaNode) : Prop :=
  ∀ others more, replacement.Alike (replacement.definitions.ofNodes branches) names others →
    SchemaNode.InlinedAll replacement.reference replacement.target branches more →
    effect (Walk.branches replacement.definitions names path branches) =
      effect (Walk.branches replacement.others others path more)

def SameFollow (names : List String) (path text : String) : Prop :=
  ∀ others,
    replacement.Alike (nameIn? replacement.definitions.root text).toList names others →
    effect (follow replacement.definitions names path text) =
      effect (follow replacement.others others path text)

/-- The reference has the effect of the node that it points at. -/
def Expands (names : List String) (path text : String) : Prop :=
  text = replacement.reference → ∀ others, replacement.Alike [replacement.name] names others →
    effect (follow replacement.definitions names path text) =
      effect (reach path replacement.target false ++
        beyond replacement.others others path replacement.target.reference replacement.target)

variable {replacement}

theorem sameFollow_of_unresolved {names : List String} {path text : String}
    (unresolved : replacement.definitions.target? text = none) :
    replacement.SameFollow names path text := by
  intro others _
  rw [follow_unresolved _ _ unresolved,
    follow_unresolved _ _ (replacement.inlined.target?_eq_none unresolved)]

theorem sameFollow_of_open {names : List String} {path text name : String} {node : SchemaNode}
    (resolves : replacement.definitions.Resolves text name node) (isOpen : name ∈ names) :
    replacement.SameFollow names path text := by
  intro others alike
  obtain ⟨other, otherResolves, _⟩ := replacement.inlined.resolves resolves
  obtain ⟨_, resolved⟩ := target?_of_resolves resolves
  obtain ⟨_, otherResolved⟩ := target?_of_resolves otherResolves
  have entered : name ∈ (nameIn? replacement.definitions.root text).toList := by
    simp [resolves.1]
  rw [effect_follow_open resolved isOpen,
    effect_follow_open otherResolved ((alike.mem_iff entered).mp isOpen)]

theorem sameFollow_of_fresh {names : List String} {path text name : String} {node : SchemaNode}
    (resolves : replacement.definitions.Resolves text name node) (fresh : name ∉ names)
    (inside : replacement.SameBeyond (name :: names) path node) :
    replacement.SameFollow names path text := by
  intro others alike
  obtain ⟨other, otherResolves, inlined⟩ := replacement.inlined.resolves resolves
  obtain ⟨_, resolved⟩ := target?_of_resolves resolves
  obtain ⟨_, otherResolved⟩ := target?_of_resolves otherResolves
  have entered : name ∈ (nameIn? replacement.definitions.root text).toList := by
    simp [resolves.1]
  have otherFresh : name ∉ others := fun isOpen => fresh ((alike.mem_iff entered).mpr isOpen)
  rw [effect_follow_fresh resolved fresh, effect_follow_fresh otherResolved otherFresh]
  exact effect_append_congr (effect_reach_congr path (inlined.keywords_eq false))
    (inside _ _ (alike.opens replacement.acyclic entered resolves.2) inlined)

theorem expands_of_fresh {names : List String} {path text name : String} {node : SchemaNode}
    (resolves : replacement.definitions.Resolves text name node) (fresh : name ∉ names)
    (inside : replacement.SameBeyond (name :: names) path node) :
    replacement.Expands names path text := by
  rintro rfl others alike
  -- the reference points at one definition, which is the replaced one
  obtain rfl := Option.some.inj (resolves.1.symm.trans replacement.resolves.1)
  obtain rfl := Option.some.inj (resolves.2.symm.trans replacement.resolves.2)
  obtain ⟨_, resolved⟩ := target?_of_resolves resolves
  rw [effect_follow_fresh resolved fresh]
  exact effect_append_congr rfl
    (inside _ _ (alike.expands replacement.acyclic resolves.2) (.refl _))

theorem expands_of_open {names : List String} {path text name : String} {node : SchemaNode}
    (resolves : replacement.definitions.Resolves text name node) (isOpen : name ∈ names) :
    replacement.Expands names path text := by
  rintro rfl others alike
  obtain rfl := Option.some.inj (resolves.1.symm.trans replacement.resolves.1)
  exact absurd .refl (alike.clear (.inl isOpen) _ (List.mem_singleton.mpr rfl))

theorem expands_of_unresolved {names : List String} {path text : String}
    (unresolved : replacement.definitions.target? text = none) :
    replacement.Expands names path text := by
  rintro rfl
  obtain ⟨_, resolved⟩ := target?_of_resolves replacement.resolves
  rw [unresolved] at resolved
  cases resolved

theorem sameBeyond_of_reference {names : List String} {path text : String} {node : SchemaNode}
    (refers : node.reference = some text) (follows : replacement.SameFollow names path text) :
    replacement.SameBeyond names path node := by
  intro others other alike inlined
  rw [← inlined.reference_eq, refers]
  exact follows others (alike.mono (name_subset_references refers))

theorem sameBeyond_of_inline {names : List String} {path : String} {node : SchemaNode}
    (inline : node.reference = none) (ofBranches : replacement.SameBranches names path node.branches)
    (ofMembers : replacement.SameProperties names path node.requiredFields node.members) :
    replacement.SameBeyond names path node := by
  intro others other alike inlined
  rw [← inlined.reference_eq, inline, beyond, beyond, ← inlined.requiredFields_eq]
  exact effect_append_congr
    (ofBranches others _ (alike.mono (ofNodes_subset_references node)) inlined.branches)
    (ofMembers others _ (alike.mono (ofMembers_subset_references node)) inlined.members)

theorem effect_property {names others : List String} {path : String} {property other : SchemaNode}
    (follows : ∀ text, replacement.SameFollow names (BodyPath.items path) text)
    (overlaid : ∀ items, property.items = some items →
      replacement.SameBeyond names (BodyPath.items path) (property.overlay items))
    (plain : replacement.SameBeyond names path property)
    (alike : replacement.Alike (replacement.definitions.references property) names others)
    (inlined : SchemaNode.Inlined replacement.reference replacement.target property other)
    (listed : Bool) :
    effect (reach (property.slot path) property.laid listed ++
        beyond replacement.definitions names (property.slot path) property.referral? property.laid) =
      effect (reach (other.slot path) other.laid listed ++
        beyond replacement.others others (other.slot path) other.referral? other.laid) := by
  cases found : property.element? with
  | none =>
    simp only [SchemaNode.slot, SchemaNode.laid, SchemaNode.referral?, found,
      inlined.element_none found]
    exact effect_append_congr (effect_reach_congr path (inlined.keywords_eq listed))
      (plain others other alike inlined)
  | some items =>
    obtain ⟨otherItems, otherFound, inlinedItems⟩ := inlined.element_some found
    have isItems := (SchemaNode.element?_eq_some found).2
    simp only [SchemaNode.slot, SchemaNode.laid, SchemaNode.referral?, found, otherFound,
      Option.isSome_some, if_true, Option.bind_some, ← inlinedItems.reference_eq]
    cases refers : items.reference with
    | some text =>
      simp only [Option.isSome_some, if_true, Option.some_or]
      have entered : (nameIn? replacement.definitions.root text).toList ⊆
          replacement.definitions.references property :=
        List.Subset.trans (name_subset_references refers) (references_items_subset isItems)
      exact effect_append_congr (effect_reach_congr _ (inlined.keywords_eq listed))
        (follows text others (alike.mono entered))
    | none =>
      have overlay := inlined.overlay inlinedItems
      have reference : (property.overlay items).reference = property.reference := by
        simp [SchemaNode.overlay, refers]
      have otherReference : (other.overlay otherItems).reference = other.reference := by
        simp [SchemaNode.overlay, ← inlinedItems.reference_eq, refers]
      simp only [Option.isSome_none, Bool.false_eq_true, if_false, Option.none_or]
      rw [← reference, ← otherReference]
      exact effect_append_congr (effect_reach_congr _ (overlay.keywords_eq listed))
        (overlaid items isItems others _ (alike.mono (references_overlay_subset isItems)) overlay)

theorem effect_place {names others : List String} {path : String}
    (noArray : replacement.target.element? = none)
    (expands : replacement.Expands names path replacement.reference)
    (alike : replacement.Alike [replacement.name] names others) (listed : Bool) :
    effect (reach path (.referring replacement.reference) listed ++
        beyond replacement.definitions names path (some replacement.reference)
          (.referring replacement.reference)) =
      effect (reach (replacement.target.slot path) replacement.target.laid listed ++
        beyond replacement.others others (replacement.target.slot path) replacement.target.referral?
          replacement.target.laid) := by
  have expanded := expands rfl others alike
  simp only [SchemaNode.slot, SchemaNode.laid, SchemaNode.referral?, noArray]
  calc
    effect (reach path (.referring replacement.reference) listed ++
          follow replacement.definitions names path replacement.reference) =
        effect (reach path (.referring replacement.reference) listed ++
          (reach path replacement.target false ++ beyond replacement.others others path
            replacement.target.reference replacement.target)) := effect_append_congr rfl expanded
    _ = effect ((reach path (.referring replacement.reference) listed ++
          reach path replacement.target false) ++ beyond replacement.others others path
            replacement.target.reference replacement.target) := by rw [List.append_assoc]
    _ = effect (reach path replacement.target listed ++ beyond replacement.others others path
          replacement.target.reference replacement.target) :=
      effect_append_congr (effect_reach_target path _ _ listed) rfl

theorem sameProperties_cons {names : List String} {path key : String} {property : SchemaNode}
    {required : List String} {rest : List (String × SchemaNode)}
    (follows : ∀ text,
      replacement.SameFollow names (BodyPath.items (BodyPath.join path key)) text)
    (overlaid : ∀ items, property.items = some items →
      replacement.SameBeyond names (BodyPath.items (BodyPath.join path key)) (property.overlay items))
    (plain : replacement.SameBeyond names (BodyPath.join path key) property)
    (expands : ∀ text, property.reference = some text →
      replacement.Expands names (BodyPath.join path key) text)
    (ofRest : replacement.SameProperties names path required rest) :
    replacement.SameProperties names path required ((key, property) :: rest) := by
  intro others more alike inlined
  rw [ofMembers_cons] at alike
  -- the property is kept, or it is the reference and the target stands there in the other walk
  have inProperty := alike.mono (List.subset_append_left _ _)
  have inRest := alike.mono (List.subset_append_right _ _)
  cases inlined with
  | keep inlined inlinedRest =>
    rw [properties_cons, properties_cons]
    exact effect_append_congr (effect_property follows overlaid plain inProperty inlined _)
      (ofRest others _ inRest inlinedRest)
  | place noArray inlinedRest =>
    rw [properties_cons, properties_cons]
    have entered : [replacement.name] ⊆
        replacement.definitions.references (.referring replacement.reference) := by
      have refers : (SchemaNode.referring replacement.reference).reference =
          some replacement.reference := rfl
      rw [← Option.toList_some, ← replacement.resolves.1]
      exact name_subset_references refers
    exact effect_append_congr (effect_place noArray (expands _ rfl) (inProperty.mono entered) _)
      (ofRest others _ inRest inlinedRest)

theorem sameBranches_cons {names : List String} {path : String} {branch : SchemaNode}
    {rest : List SchemaNode}
    (entered : replacement.SameBeyond names path branch)
    (ofRest : replacement.SameBranches names path rest) :
    replacement.SameBranches names path (branch :: rest) := by
  intro others more alike inlined
  rw [ofNodes_cons] at alike
  have inBranch := alike.mono (List.subset_append_left _ _)
  have inRest := alike.mono (List.subset_append_right _ _)
  cases inlined with
  | @cons _ other _ _ inlined inlinedRest =>
    have beyondBranch := entered others other inBranch inlined
    cases refers : branch.reference with
    | some text =>
      have otherRefers : other.reference = some text := inlined.reference_eq ▸ refers
      rw [branches_referral _ _ refers, branches_referral _ _ otherRefers]
      rw [refers, otherRefers] at beyondBranch
      exact effect_append_congr beyondBranch (ofRest others _ inRest inlinedRest)
    | none =>
      have otherInline : other.reference = none := inlined.reference_eq ▸ refers
      rw [branches_inline _ _ refers, branches_inline _ _ otherInline, node_eq, node_eq]
      exact effect_append_congr
        (effect_append_congr (effect_reach_congr path (inlined.keywords_eq false)) beyondBranch)
        (ofRest others _ inRest inlinedRest)

variable (replacement)

/-- Walks have the same effect before and after, and the reference has that of the node it points at. -/
theorem effect_all :
    (∀ names path (_ : Bool) (current : SchemaNode),
      replacement.SameBeyond names path current ∧
      ∀ text, current.reference = some text → replacement.Expands names path text) ∧
    (∀ names path required (members : List (String × SchemaNode)),
      replacement.SameProperties names path required members) ∧
    (∀ names path text,
      replacement.SameFollow names path text ∧ replacement.Expands names path text) ∧
    (∀ names path (branches : List SchemaNode), replacement.SameBranches names path branches) := by
  -- along the walk before the replacement; what is open in the other is left to vary
  apply Walk.node.mutual_induct replacement.definitions
  case case1 =>
    intro names path _ current follows ofBranches ofMembers
    refine ⟨?_, fun text _ => (follows text).2⟩
    cases refers : current.reference with
    | some text => exact sameBeyond_of_reference refers (follows text).1
    | none => exact sameBeyond_of_inline refers ofBranches ofMembers
  case case2 =>
    intro names path required others more _ inlined
    cases inlined
    rw [properties_nil, properties_nil]
  case case3 =>
    intro names path required key property rest listed child follows overlaid plain ofRest
    exact sameProperties_cons (fun text => (follows text).1)
      (fun items isItems => (overlaid items isItems).1) plain.1 plain.2 ofRest
  case case4 =>
    intro names path text unresolved
    exact ⟨sameFollow_of_unresolved unresolved, expands_of_unresolved unresolved⟩
  case case5 =>
    intro names path text name node present resolved isOpen
    have resolves := resolves_of_target? resolved
    have open' : name ∈ names := by simpa using isOpen
    exact ⟨sameFollow_of_open resolves open', expands_of_open resolves open'⟩
  case case6 =>
    intro names path text name node present resolved notOpen inside
    have resolves := resolves_of_target? resolved
    have fresh : name ∉ names := by simpa using notOpen
    exact ⟨sameFollow_of_fresh resolves fresh inside.1, expands_of_fresh resolves fresh inside.1⟩
  case case7 =>
    intro names path others more _ inlined
    cases inlined
    rw [branches_nil, branches_nil]
  case case8 =>
    intro names path branch rest _ entered ofRest
    exact sameBranches_cons entered.1 ofRest

theorem effect_body {schema other : SchemaNode}
    (inlined : SchemaNode.Inlined replacement.reference replacement.target schema other) :
    effect (body replacement.definitions schema) = effect (body replacement.others other) := by
  have entered := (replacement.effect_all.1 [] "" false schema).1 [] other (.refl _) inlined
  rw [body_eq, body_eq, ← inlined.isComposite_eq, ← inlined.reference_eq]
  rw [← inlined.reference_eq] at entered
  split
  · exact entered
  · exact effect_reach_congr _ (inlined.keywords_eq false)

theorem effect_body_place
    (noScalar : replacement.target.reference.isSome = true ∨ replacement.target.isComposite = true ∨
      replacement.target.keywords false = ∅) :
    effect (body replacement.definitions (.referring replacement.reference)) =
      effect (body replacement.others replacement.target) := by
  have expanded := (replacement.effect_all.2.2.1 [] "" replacement.reference).2 rfl [] (.refl _)
  have root : reach "" replacement.target false = [] := rfl
  rw [root, List.nil_append] at expanded
  have follows : body replacement.definitions (.referring replacement.reference) =
      follow replacement.definitions [] "" replacement.reference := by
    rw [body_eq]
    rfl
  rw [follows, expanded, body_eq]
  split
  · rfl
  · next scalar =>
    simp only [Bool.or_eq_true, not_or, Bool.not_eq_true, Option.isSome_eq_false_iff,
      Option.isNone_iff_eq_none] at scalar
    obtain ⟨inline, notComposite⟩ := scalar
    have silent : replacement.target.keywords false = ∅ := by
      simpa [inline, notComposite] using noScalar
    -- nothing is entered from the scalar, and no rule is recorded for it
    funext model
    have leaf : beyond replacement.others [] "" replacement.target.reference replacement.target = [] := by
      simp only [SchemaNode.isComposite, Bool.or_eq_false_iff, Option.isSome_eq_false_iff,
        Option.isNone_iff_eq_none] at notComposite
      apply beyond_leaf _ _ _ inline
      · rw [SchemaNode.branches, notComposite.2, Option.getD_none]
      · rw [SchemaNode.members, notComposite.1, Option.getD_none]
    have field : BodyPath.wholeBody ≠ "" := by decide
    rw [leaf, effect_reach, if_neg field, silent]
    rfl

end Replacement

end Walk

namespace SchemaNode

/-- The other parameter is the parameter with its schema inlined, or with `target` as its schema in place
of the reference to it. A target that is a scalar with keywords of its own is not put there. -/
inductive InlinedParameter (reference : String) (target : SchemaNode) : SchemaNode → SchemaNode → Prop
  | within (parameter : SchemaNode) {schema : Option SchemaNode}
      (inlined : Option.Rel (Inlined reference target) parameter.schema schema) :
      InlinedParameter reference target parameter { parameter with schema := schema }
  | place (parameter : SchemaNode) (isReference : parameter.schema = some (referring reference))
      (noScalar : target.reference.isSome = true ∨ target.isComposite = true ∨
        target.keywords false = ∅) :
      InlinedParameter reference target parameter { parameter with schema := some target }

theorem steps_of_body (definitions : Definitions) (parameter : SchemaNode) (path : String) :
    parameter.steps definitions .body path =
      Walk.reach path parameter false ++
        (parameter.schema.map (Walk.body definitions)).getD [] := by
  unfold steps
  cases parameter.items <;> cases parameter.schema <;> rfl

theorem steps_of_not_body {definitions : Definitions} {location : Location} (notBody : location ≠ .body)
    (others : Definitions) (parameter : SchemaNode) (schema : Option SchemaNode) (path : String) :
    parameter.steps definitions location path =
      { parameter with schema := schema }.steps others location path := by
  have silent (definitions : Definitions) (schema : Option SchemaNode) :
      steps.bodySteps definitions location schema = [] := by
    cases schema <;> simp [steps.bodySteps, notBody]
  unfold steps
  cases parameter.items <;> simp only [silent] <;> rfl

end SchemaNode

namespace Walk

theorem Replacement.effect_schema (replacement : Replacement) {parameter other : SchemaNode}
    (inlined :
      SchemaNode.InlinedParameter replacement.reference replacement.target parameter other) :
    effect ((parameter.schema.map (body replacement.definitions)).getD []) =
      effect ((other.schema.map (body replacement.others)).getD []) := by
  cases inlined with
  | within inlined =>
    simp only
    generalize parameter.schema = schema at inlined ⊢
    cases inlined with
    | none => rfl
    | some inlined => exact replacement.effect_body inlined
  | place isReference noScalar =>
    rw [isReference]
    exact replacement.effect_body_place noScalar

end Walk

namespace SchemaNode

theorem reached_of_place (definitions : Definitions) {parameter : SchemaNode} {location : Location}
    {path : String} (place : parameter.place? = some (location, path)) :
    parameter.reached definitions =
      ((parameter.steps definitions location path).filterMap WalkStep.field?).map
        fun (path, keywords) => ⟨location, path, keywords⟩ := by
  rw [reached, place]

theorem foldl_reached_of_body (definitions : Definitions) {parameter : SchemaNode} {path : String}
    (place : parameter.place? = some (.body, path)) (model : CheckModel) :
    (parameter.reached definitions).foldl Parser.record model =
      Walk.effect (parameter.steps definitions .body path) model := by
  rw [reached_of_place definitions place, List.foldl_map]
  rfl

end SchemaNode

namespace Compiler

open Walk

theorem foldl_reached_of_inlined (replacement : Replacement) {parameter other : SchemaNode}
    (inlined :
      SchemaNode.InlinedParameter replacement.reference replacement.target parameter other)
    (model : CheckModel) :
    (parameter.reached replacement.definitions).foldl Parser.record model =
      (other.reached replacement.others).foldl Parser.record model := by
  obtain ⟨schema, rfl⟩ : ∃ schema, other = { parameter with schema := schema } := by
    cases inlined <;> exact ⟨_, rfl⟩
  have samePlace : { parameter with schema := schema }.place? = parameter.place? := rfl
  cases place : parameter.place? with
  | none => simp only [SchemaNode.reached, samePlace, place]
  | some found =>
    obtain ⟨location, path⟩ := found
    by_cases isBody : location = .body
    · subst isBody
      have sameReach : reach path { parameter with schema := schema } false = reach path parameter false :=
        rfl
      rw [SchemaNode.foldl_reached_of_body _ place,
        SchemaNode.foldl_reached_of_body _ (samePlace.trans place), SchemaNode.steps_of_body,
        SchemaNode.steps_of_body, sameReach, effect_append_congr rfl (replacement.effect_schema inlined)]
    · rw [SchemaNode.reached_of_place _ place, SchemaNode.reached_of_place _ (samePlace.trans place),
        SchemaNode.steps_of_not_body isBody replacement.others parameter schema]

/-- The check model of an operation stays the same where references to a definition, among the
properties of its body schemas and of all definitions or as a body schema, are replaced by the node of the
definition. The definition does not reach itself; it is no array with items where it replaces a property,
and no scalar with keywords where it replaces a body schema. -/
theorem operation_of_inlined {definitions others : Definitions} {reference name : String}
    {target : SchemaNode} (resolves : definitions.Resolves reference name target)
    (acyclic : ¬ Relation.TransGen definitions.Refers name name)
    (inlined : definitions.Inlined reference target others) {item otherItem : PathItem}
    {operation otherOperation : Operation}
    (parameters : List.Forall₂ (SchemaNode.InlinedParameter reference target)
      (parametersOf item operation) (parametersOf otherItem otherOperation)) :
    Compiler.operation ⟨definitions, (Lifecycle.default : Lifecycle Unit).folding⟩ item operation =
      Compiler.operation ⟨others, (Lifecycle.default : Lifecycle Unit).folding⟩ otherItem
        otherOperation := by
  let replacement : Replacement :=
    ⟨definitions, others, reference, name, target, inlined, resolves, acyclic⟩
  have folded : ∀ model,
      ((parametersOf item operation).flatMap (SchemaNode.reached definitions)).foldl Parser.record model =
        ((parametersOf otherItem otherOperation).flatMap (SchemaNode.reached others)).foldl
          Parser.record model := by
    generalize parametersOf item operation = before at parameters ⊢
    generalize parametersOf otherItem otherOperation = after at parameters ⊢
    induction parameters with
    | nil => exact fun _ => rfl
    | cons first _ ih =>
      intro model
      rw [List.flatMap_cons, List.flatMap_cons, List.foldl_append, List.foldl_append,
        foldl_reached_of_inlined replacement first]
      exact ih _
  rw [Lifecycle.default, operation_eq, operation_eq, folded]

end Compiler

namespace ShortNames

def shortName : SchemaNode :=
  { SchemaNode.empty with
    type := some "string"
    rules := { RuleSet.empty with maxLength := some 3 } }

def definitions : Definitions := ⟨Dict.ofList [("Name", shortName)], Definitions.defaultRoot⟩

def reference : String := "#/definitions/Name"

theorem resolves : definitions.Resolves reference "Name" shortName := ⟨by decide, rfl⟩

theorem acyclic : ¬ Relation.TransGen definitions.Refers "Name" "Name" := by
  intro reaches
  obtain ⟨other, ⟨node, known, isReference⟩, _⟩ := Relation.TransGen.head'_iff.mp reaches
  obtain rfl := Option.some.inj (resolves.2.symm.trans known)
  have nothing : definitions.references shortName = [] := rfl
  rw [nothing] at isReference
  cases isReference

theorem check_property :
    Compiler.ofParameter definitions (Walk.bodyOf (.referring reference)) =
      Compiler.ofParameter definitions (Walk.bodyOf shortName) := by
  refine Compiler.operation_of_inlined resolves acyclic (.refl definitions) (.cons ?_ .nil)
  refine .within (Walk.bodyOf (.referring reference)) (.some (.within rfl .nil .nil rfl ?_ rfl))
  exact .place rfl .nil

/-- A body that is a short name is constrained, while one that refers to it is not. -/
theorem check_body_of_reference :
    definitions.Resolves reference "Name" shortName ∧
      ¬ Relation.TransGen definitions.Refers "Name" "Name" ∧
      Compiler.ofParameter definitions (.inBody (.referring reference)) ≠
        Compiler.ofParameter definitions (.inBody shortName) := by
  refine ⟨resolves, acyclic, fun same => ?_⟩
  have check_eq (schema : SchemaNode) : Compiler.ofParameter definitions (.inBody schema) =
      Walk.effect (Walk.body definitions schema)
        (Walk.effect (Walk.reach BodyPath.wholeBody (.inBody schema) false) ∅) := by
    have place : (SchemaNode.inBody schema).place? = some (.body, BodyPath.wholeBody) := rfl
    rw [Compiler.ofParameter_eq, SchemaNode.foldl_reached_of_body _ place, SchemaNode.steps_of_body,
      Walk.effect_append]
    rfl
  have entered : Walk.effect (Walk.body definitions (.referring reference)) = Walk.effect [] := by
    obtain ⟨_, resolved⟩ := Definitions.target?_of_resolves resolves
    have follows : Walk.body definitions (.referring reference) =
        Walk.follow definitions [] "" reference := by
      rw [Walk.body_eq]
      rfl
    rw [follows, Walk.effect_follow_fresh resolved List.not_mem_nil, Walk.beyond_leaf _ _ _ rfl rfl rfl]
    rfl
  have constrained : Walk.body definitions shortName =
      Walk.reach BodyPath.wholeBody shortName false := by
    rw [Walk.body_eq]
    rfl
  rw [check_eq, check_eq, entered, constrained] at same
  have rules := congrArg (fun model => (CheckModel.rulesAt model .body BodyPath.wholeBody).maxLength) same
  exact absurd rules (by decide)

end ShortNames
end WireContract

import WireContract.Proofs.BodyFields
import WireContract.Proofs.Conformance
import WireContract.Proofs.WholeBody

/-!
What the fields of a walk reject. At every node that a walk enters, the fields below it reject the values
that do not conform to the node. Main statements: `covers_all`, by induction on the walk, and
`rejects_walked`.
-/

namespace WireContract

namespace BodyField

def ofSteps (steps : List WalkStep) : List BodyField :=
  (steps.filterMap WalkStep.field?).map fun field =>
    (BodyPath.segments field.1, Parser.recorded field.2)

theorem ofSteps_append (front back : List WalkStep) :
    ofSteps (front ++ back) = ofSteps front ++ ofSteps back := by
  simp [ofSteps]

theorem ofSteps_reach (path : String) (node : SchemaNode) (listed : Bool) :
    ofSteps (Walk.reach path node listed) =
      if path = "" then [] else [(BodyPath.route path, node.keywords listed)] := by
  by_cases root : path = ""
  · simp [Walk.reach, root, ofSteps]
  · simp [Walk.reach, root, ofSteps, WalkStep.field?, SchemaNode.recorded_keywords,
      BodyPath.route_of_ne root]

def own (path : String) (trail : List SchemaNode) : List BodyField :=
  if path = "" then [] else trail.map fun node => (BodyPath.route path, node.keywords false)

def IsBelow (field : BodyField) : Prop :=
  ∃ key, BodyPath.IsKey key ∧ ∃ (property : SchemaNode) (rest : List String),
    field.1 = property.slot key :: rest

theorem IsBelow.ne_nil {field : BodyField} (below : field.IsBelow) : field.1 ≠ [] := by
  obtain ⟨_, _, _, _, same⟩ := below
  rw [same]
  exact List.cons_ne_nil _ _

theorem IsBelow.ne_wholeBody {field : BodyField} (below : field.IsBelow) :
    field.1 ≠ [BodyPath.wholeBody] := by
  obtain ⟨key, isKey, property, rest, same⟩ := below
  rw [same]
  intro whole
  exact property.slot_ne_wholeBody isKey (List.cons.inj whole).1

/-- What a list of steps is that is taken beyond a node at `path`: the fields on its own path, and fields
below it that reject what `conforms` does not hold of. -/
def Covers (passes : Json → RuleSet → Prop) (steps : List WalkStep) (path : String)
    (trail : List SchemaNode) (conforms : Json → Prop) : Prop :=
  ∃ below : List BodyField,
    ofSteps steps = own path trail ++ below.map (under (BodyPath.route path)) ∧
    (∀ field ∈ below, field.IsBelow) ∧
    ∀ body, Rejects passes below body ↔ ¬ conforms body

def ofProperty (key : String) (property : SchemaNode) (listed : Bool) (trail : List SchemaNode)
    (below : List BodyField) : List BodyField :=
  ((property.laid.keywords listed :: trail.map fun node => node.keywords false).map
      fun rules => ([property.slot key], rules)) ++
    below.map (under [property.slot key])

theorem head_of_mem_ofProperty {key : String} {property : SchemaNode} {listed : Bool}
    {trail : List SchemaNode} {below : List BodyField} {field : BodyField}
    (member : field ∈ ofProperty key property listed trail below) :
    ∃ rest, field.1 = property.slot key :: rest := by
  rcases List.mem_append.mp member with on | under
  · obtain ⟨_, _, rfl⟩ := List.mem_map.mp on
    exact ⟨[], rfl⟩
  · obtain ⟨inner, _, rfl⟩ := List.mem_map.mp under
    exact ⟨inner.1, rfl⟩

variable {definitions : Definitions} {passes : Json → RuleSet → Prop}

theorem rejects_ofProperty (lenient : ∀ value, passes value ∅) {key : String}
    (isKey : BodyPath.IsKey key) (property : SchemaNode) (required : List String)
    {below : List BodyField} (isBelow : ∀ field ∈ below, field.IsBelow)
    (rejects : ∀ part, Rejects passes below part ↔
      ¬ definitions.Conforms passes property.element part) (body : Json) :
    Rejects passes
        (ofProperty key property (required.contains key) (definitions.trail [] property.referral?)
          below) body ↔
      body.isFalsy = false ∧ ¬ definitions.PropertyConforms passes required (key, property) body := by
  have apart : ∀ one ∈ ((property.laid.keywords (required.contains key) ::
        (definitions.trail [] property.referral?).map fun node => node.keywords false).map
          fun rules => (([property.slot key], rules) : BodyField)),
      ∀ other ∈ below.map (under [property.slot key]), one.1 ≠ other.1 := by
    intro one isOne other isOther
    obtain ⟨_, _, rfl⟩ := List.mem_map.mp isOne
    obtain ⟨inner, isInner, rfl⟩ := List.mem_map.mp isOther
    intro same
    exact (isBelow inner isInner).ne_nil (List.cons.inj same).2.symm
  rw [ofProperty, rejects_append lenient apart, rejects_together lenient,
    rejects_below lenient _ fun field member => (isBelow field member).ne_nil]
  rw [BodyPath.resolve_singleton, property.last_slot isKey, property.through_slot isKey,
    List.foldl_cons]
  have first : RuleSet.extend ∅ (property.laid.keywords (required.contains key)) =
      property.laid.keywords (required.contains key) := RuleSet.empty_extend _
  rw [first]
  cases body.isFalsy with
  | true => simp
  | false =>
    simp only [rejects, Definitions.PropertyConforms, Definitions.rulesOf, Bool.false_eq_true, if_false,
      List.mem_singleton, exists_eq_left, true_and,
      Classical.not_and_iff_not_or_not, Classical.not_forall, exists_prop]

end BodyField

namespace Walk

open BodyField

variable {definitions : Definitions} {passes : Json → RuleSet → Prop}

/-- What the steps over the properties of an object at `path` are: fields of those properties that
reject what does not conform to one of them. -/
def CoversProperties (definitions : Definitions) (passes : Json → RuleSet → Prop)
    (steps : List WalkStep) (path : String) (required : List String)
    (members : List (String × SchemaNode)) : Prop :=
  ∃ below : List BodyField,
    ofSteps steps = below.map (under (BodyPath.route path)) ∧
    (∀ field ∈ below, ∃ member ∈ members, ∃ rest, field.1 = member.2.slot member.1 :: rest) ∧
    ∀ body, Rejects passes below body ↔
      ¬ (body.isFalsy = true ∨
        ∀ member ∈ members, definitions.PropertyConforms passes required member body)

theorem coversProperties_nil (lenient : ∀ value, passes value ∅) (path : String)
    (required : List String) : CoversProperties definitions passes [] path required [] := by
  refine ⟨[], rfl, List.forall_mem_nil _, fun body => ?_⟩
  have nothing := not_rejects_nil lenient body
  simp [nothing]

theorem coversProperties_cons (lenient : ∀ value, passes value ∅) {path key : String}
    {property : SchemaNode} {required : List String} {more : List (String × SchemaNode)}
    (keys : ∀ member ∈ (key, property) :: more, BodyPath.IsKey member.1)
    (distinct : (((key, property) :: more).map Prod.fst).Nodup)
    {inner others : List WalkStep}
    (entered : Covers passes inner (property.slot (BodyPath.join path key))
      (definitions.trail [] property.referral?) (definitions.Conforms passes property.element))
    (covered : CoversProperties definitions passes others path required more) :
    CoversProperties definitions passes
      (reach (property.slot (BodyPath.join path key)) property.laid (required.contains key) ++
        inner ++ others)
      path required ((key, property) :: more) := by
  obtain ⟨below, fields, isBelow, rejects⟩ := entered
  obtain ⟨rest, otherFields, heads, otherRejects⟩ := covered
  have isKey : BodyPath.IsKey key := keys _ (List.mem_cons_self ..)
  let trail := definitions.trail [] property.referral?
  have slot_join := property.slot_join path key
  have field := BodyPath.join_ne_empty path (property.slot_ne_empty isKey)
  have route := BodyPath.route_join path (property.slot_ne_empty isKey) (property.slot_undotted isKey)
  refine ⟨ofProperty key property (required.contains key) trail below ++ rest, ?_, ?_, ?_⟩
  · rw [ofSteps_append, ofSteps_append, ofSteps_reach, fields, otherFields, slot_join,
      if_neg field, own, if_neg field, route]
    simp [ofProperty, trail, under, Function.comp_def]
  · intro field member
    rcases List.mem_append.mp member with here | there
    · exact ⟨(key, property), List.mem_cons_self .., head_of_mem_ofProperty here⟩
    · obtain ⟨other, isOther, head⟩ := heads field there
      exact ⟨other, List.mem_cons_of_mem _ isOther, head⟩
  · intro body
    have apart : ∀ one ∈ ofProperty key property (required.contains key) trail below,
        ∀ other ∈ rest, one.1 ≠ other.1 := by
      intro one isOne other isOther same
      obtain ⟨_, oneHead⟩ := head_of_mem_ofProperty isOne
      obtain ⟨⟨name, node⟩, member, _, otherHead⟩ := heads other isOther
      rw [oneHead, otherHead] at same
      have segment : property.slot key = node.slot name := (List.cons.inj same).1
      have isName := keys _ (List.mem_cons_of_mem _ member)
      have sameKey : key = name := by
        rw [← property.key_of_slot isKey, segment]
        exact node.key_of_slot isName
      have absent := (List.nodup_cons.mp distinct).1
      exact absent (List.mem_map.mpr ⟨_, member, sameKey.symm⟩)
    rw [rejects_append lenient apart, otherRejects,
      rejects_ofProperty lenient isKey property required isBelow rejects]
    cases body.isFalsy with
    | true => simp
    | false =>
      simp only [Bool.false_eq_true, false_or, true_and, List.forall_mem_cons,
        Classical.not_and_iff_not_or_not]

theorem covers_of_inline {current : SchemaNode} (inline : current.reference = none)
    (keys : ∀ member ∈ current.members, BodyPath.IsKey member.1) {steps : List WalkStep} {path : String}
    (covered : CoversProperties definitions passes steps path current.requiredFields current.members) :
    Covers passes steps path (definitions.trail [] current.reference)
      (definitions.Conforms passes current) := by
  obtain ⟨below, fields, heads, rejects⟩ := covered
  refine ⟨below, ?_, ?_, ?_⟩
  · rw [fields, inline, Definitions.trail_none, own]
    simp
  · intro field member
    obtain ⟨property, isProperty, rest, head⟩ := heads field member
    exact ⟨property.1, keys property isProperty, property.2, rest, head⟩
  · intro body
    rw [rejects, Definitions.conforms_iff, Definitions.settled_of_inline definitions inline]

theorem covers_of_refers (acyclic : definitions.Acyclic) {dependencies : List String}
    {node target : SchemaNode} {path reference name : String}
    (refers : node.reference = some reference)
    (resolves : definitions.Resolves reference name target) (fresh : name ∉ dependencies)
    (inside : Covers passes (beyond definitions (name :: dependencies) path target.reference target)
      path (definitions.trail [] target.reference) (definitions.Conforms passes target)) :
    Covers passes (follow definitions dependencies path reference) path
      (definitions.trail [] (some reference)) (definitions.Conforms passes node) := by
  obtain ⟨below, fields, isBelow, rejects⟩ := inside
  obtain ⟨present, resolved⟩ := Definitions.target?_of_resolves resolves
  refine ⟨below, ?_, isBelow, ?_⟩
  · have opened : ofSteps [.opened name path] = [] := rfl
    have closed : ofSteps [.closed name] = [] := rfl
    rw [follow_fresh definitions dependencies resolved (by simpa using fresh), ← List.singleton_append,
      ofSteps_append, ofSteps_append, opened, closed, List.nil_append, List.append_nil, node_eq,
      ofSteps_append, ofSteps_reach, fields, Definitions.trail_eq_cons acyclic resolves]
    by_cases root : path = ""
    · simp [own, root]
    · simp [own, root]
  · intro body
    have settled := Definitions.settled_of_refers acyclic refers resolves
    rw [rejects, Definitions.conforms_congr definitions (by rw [settled]) (by rw [settled])]

theorem covers_property {dependencies : List String} {path : String} {property : SchemaNode}
    (regular : SchemaNode.Regular definitions property)
    (clear : definitions.Clear dependencies (definitions.references property))
    (follows : ∀ reference (node : SchemaNode), node.reference = some reference →
      node.Enterable definitions → definitions.Clear dependencies (definitions.followed node) →
        Covers passes (follow definitions dependencies (BodyPath.items path) reference)
          (BodyPath.items path) (definitions.trail [] (some reference))
          (definitions.Conforms passes node))
    (overlaid : ∀ items, property.items = some items →
      (property.overlay items).Enterable definitions →
      definitions.Clear dependencies (definitions.followed (property.overlay items)) →
        Covers passes
          (beyond definitions dependencies (BodyPath.items path) (property.overlay items).reference
            (property.overlay items))
          (BodyPath.items path) (definitions.trail [] (property.overlay items).reference)
          (definitions.Conforms passes (property.overlay items)))
    (plain : property.Enterable definitions →
      definitions.Clear dependencies (definitions.followed property) →
        Covers passes (beyond definitions dependencies path property.reference property) path
          (definitions.trail [] property.reference) (definitions.Conforms passes property)) :
    Covers passes
      (beyond definitions dependencies (property.slot path) property.referral? property.laid)
      (property.slot path) (definitions.trail [] property.referral?)
      (definitions.Conforms passes property.element) := by
  refine property.entered (motive := fun slot referral? laid =>
    Covers passes (beyond definitions dependencies slot referral? laid) slot
      (definitions.trail [] referral?) (definitions.Conforms passes property.element)) ?_ ?_ ?_
  · intro items reference found refers
    have element : property.element = items := by rw [SchemaNode.element, found, Option.getD_some]
    have isItems := (SchemaNode.element?_eq_some found).2
    rw [element]
    refine follows reference items refers (regular.element found).enterable (clear.mono ?_)
    exact List.Subset.trans (Definitions.followed_subset_references items)
      (Definitions.references_items_subset isItems)
  · intro items found inline
    have element : property.element = items := by rw [SchemaNode.element, found, Option.getD_some]
    have isItems := (SchemaNode.element?_eq_some found).2
    obtain ⟨members, required, _, reference⟩ := regular.overlay found
    have followed : definitions.followed (property.overlay items) = definitions.followed items := by
      rw [Definitions.followed, reference, members, Definitions.followed]
    have conforms : definitions.Conforms passes (property.overlay items) =
        definitions.Conforms passes items := by
      funext value
      have settled := Definitions.settled_of_inline definitions inline
      have settledOverlay := Definitions.settled_of_inline definitions (reference.trans inline)
      apply propext
      apply Definitions.conforms_congr
      · rw [settled, settledOverlay, members]
      · rw [settled, settledOverlay, required]
    rw [element, ← conforms]
    refine overlaid items isItems (regular.enterable_overlay found) (followed ▸ clear.mono ?_)
    exact List.Subset.trans (Definitions.followed_subset_references items)
      (Definitions.references_items_subset isItems)
  · intro found
    have element : property.element = property := by rw [SchemaNode.element, found, Option.getD_none]
    rw [element]
    exact plain regular.enterable
      (clear.mono (Definitions.followed_subset_references property))

/-- What a walk covers, given that no definition leads back to an open one. -/
theorem covers_all (acyclic : definitions.Acyclic)
    (regular : ∀ name node, definitions.nodes.get? name = some node →
      SchemaNode.Regular definitions node)
    (lenient : ∀ value, passes value ∅) :
    (∀ dependencies path (_ : Bool) (current : SchemaNode),
      current.Enterable definitions →
      definitions.Clear dependencies (definitions.followed current) →
        Covers passes (beyond definitions dependencies path current.reference current) path
          (definitions.trail [] current.reference) (definitions.Conforms passes current)) ∧
    (∀ dependencies path required (members : List (String × SchemaNode)),
      (∀ member ∈ members, BodyPath.IsKey member.1) → (members.map Prod.fst).Nodup →
      (∀ member ∈ members, SchemaNode.Regular definitions member.2) →
      definitions.Clear dependencies (definitions.ofMembers members) →
        CoversProperties definitions passes
          (properties definitions dependencies path required members) path required members) ∧
    (∀ dependencies path reference (node : SchemaNode),
      node.reference = some reference → node.Enterable definitions →
      definitions.Clear dependencies (definitions.followed node) →
        Covers passes (follow definitions dependencies path reference) path
          (definitions.trail [] (some reference)) (definitions.Conforms passes node)) ∧
    (∀ (_ : List String) (_ : String) (_ : List SchemaNode), True) := by
  -- branches are left out: no node that is entered has any
  apply Walk.node.mutual_induct definitions
  case case1 =>
    intro dependencies path _ current follows _ inside enterable clear
    cases refers : current.reference with
    | some reference =>
      exact follows reference current refers enterable clear
    | none =>
      have noBranches : current.branches = [] := by
        rw [SchemaNode.branches, enterable.noBranches, Option.getD_none]
      rw [← refers]
      refine covers_of_inline refers enterable.keys ?_
      simp only [beyond, refers, noBranches, branches_nil, List.nil_append]
      refine inside enterable.keys enterable.distinct enterable.members (clear.mono ?_)
      exact List.subset_append_right _ _
  case case2 =>
    intro dependencies path required _ _ _ _
    rw [properties_nil]
    exact coversProperties_nil lenient path required
  case case3 =>
    intro dependencies path required key property more listed child follows overlaid plain others keys
      distinct inside clear
    rw [properties_cons]
    rw [Definitions.ofMembers_cons] at clear
    have entered := covers_property (inside _ (List.mem_cons_self ..))
      (clear.mono (List.subset_append_left _ _)) follows overlaid plain
    refine coversProperties_cons lenient keys distinct entered ?_
    exact others (fun member rest => keys member (List.mem_cons_of_mem _ rest))
      (List.nodup_cons.mp distinct).2 (fun member rest => inside member (List.mem_cons_of_mem _ rest))
      (clear.mono (List.subset_append_right _ _))
  case case4 =>
    intro dependencies path reference unresolved node refers enterable _
    obtain ⟨name, target, resolves⟩ := enterable.resolves reference refers
    obtain ⟨_, resolved⟩ := Definitions.target?_of_resolves resolves
    rw [unresolved] at resolved
    contradiction
  case case5 =>
    intro dependencies path reference name target present resolved isOpen node refers _ clear
    have resolves := Definitions.resolves_of_target? resolved
    have isName : name ∈ definitions.followed node := by
      simp [Definitions.followed, refers, resolves.1]
    -- an open definition would be led back to
    exact absurd (by simpa using isOpen) (clear.not_mem isName)
  case case6 =>
    intro dependencies path reference name target present resolved notOpen inside node refers _ clear
    have resolves := Definitions.resolves_of_target? resolved
    have isName : name ∈ definitions.followed node := by
      simp [Definitions.followed, refers, resolves.1]
    refine covers_of_refers acyclic refers resolves (by simpa using notOpen) ?_
    refine inside (regular name target resolves.2).enterable ?_
    exact (clear.opens acyclic isName resolves.2).mono (Definitions.followed_subset_references target)
  all_goals
    intros
    trivial

theorem walked_of_body {parameter schema : SchemaNode}
    (place : parameter.place? = some (.body, BodyPath.wholeBody))
    (isSchema : parameter.schema = some schema) :
    parameter.walked definitions =
      reach BodyPath.wholeBody parameter false ++ body definitions schema := by
  have noList : (Location.body == Location.query && parameter.isArray) = false := rfl
  have isBody : (Location.body == Location.body) = true := rfl
  unfold SchemaNode.walked
  rw [place]
  unfold SchemaNode.steps
  rw [isSchema]
  cases parameter.items <;>
    simp only [noList, Bool.false_eq_true, if_false, SchemaNode.steps.bodySteps, isBody, if_true]

section Document

variable (acyclic : definitions.Acyclic)
  (regular : ∀ name node, definitions.nodes.get? name = some node →
    SchemaNode.Regular definitions node)
  (lenient : ∀ value, passes value ∅)

include acyclic regular lenient

theorem covers_body {schema : SchemaNode}
    (object : schema.reference.isSome = true ∨ schema.properties.isSome = true)
    (regularSchema : SchemaNode.Regular definitions schema) :
    ∃ trail, Covers passes (body definitions schema) "" trail
      (definitions.Conforms passes schema) := by
  have covers := covers_all acyclic regular lenient
  have clear : definitions.Clear [] (definitions.followed schema) := .nil _
  have enterable := regularSchema.enterable
  unfold body
  cases refers : schema.reference with
  | some reference => exact ⟨_, covers.2.2.1 [] "" reference schema refers enterable clear⟩
  | none =>
    have composite : schema.isComposite = true := by
      rw [refers] at object
      rcases object with refers | properties
      · cases refers
      · rw [SchemaNode.isComposite, properties, Bool.true_or]
    have root : reach "" schema false = [] := rfl
    simp only [composite, if_true]
    rw [node_eq, root, List.nil_append]
    exact ⟨_, covers.1 [] "" false schema enterable clear⟩

theorem covers_parameter {parameter schema : SchemaNode}
    (place : parameter.place? = some (.body, BodyPath.wholeBody))
    (isSchema : parameter.schema = some schema)
    (object : schema.reference.isSome = true ∨ schema.properties.isSome = true)
    (regularSchema : SchemaNode.Regular definitions schema) :
    ∃ below : List BodyField,
      ofSteps (parameter.walked definitions) =
        ([BodyPath.wholeBody], parameter.keywords false) :: below ∧
      (∀ field ∈ below, field.IsBelow) ∧
      ∀ body, Rejects passes below body ↔ ¬ definitions.Conforms passes schema body := by
  obtain ⟨trail, below, fields, isBelow, rejects⟩ :=
    covers_body acyclic regular lenient object regularSchema
  refine ⟨below, ?_, isBelow, rejects⟩
  have nothingOwn : own "" trail = [] := rfl
  have unmoved : below.map (under (BodyPath.route "")) = below := by
    have route : BodyPath.route "" = [] := rfl
    rw [route]
    exact List.map_id _
  have field : BodyPath.wholeBody ≠ "" := by decide
  rw [walked_of_body place isSchema, ofSteps_append, ofSteps_reach, if_neg field, fields, nothingOwn,
    unmoved, BodyPath.route_of_ne field, BodyPath.segments_wholeBody]
  rfl

/-- What the fields of a body parameter reject. -/
theorem rejects_walked {parameter schema : SchemaNode}
    (place : parameter.place? = some (.body, BodyPath.wholeBody))
    (isSchema : parameter.schema = some schema)
    (object : schema.reference.isSome = true ∨ schema.properties.isSome = true)
    (regularSchema : SchemaNode.Regular definitions schema) (body : Json) :
    Rejects passes (ofSteps (parameter.walked definitions)) body ↔
      ¬ definitions.BodyConforms passes parameter body := by
  obtain ⟨below, fields, isBelow, rejects⟩ :=
    covers_parameter acyclic regular lenient place isSchema object regularSchema
  have apart : ∀ one ∈ [(([BodyPath.wholeBody], parameter.keywords false) : BodyField)],
      ∀ other ∈ below, one.1 ≠ other.1 := by
    intro one isOne other isOther
    obtain rfl := List.mem_singleton.mp isOne
    exact (isBelow other isOther).ne_wholeBody.symm
  have own : Rejects passes [([BodyPath.wholeBody], parameter.keywords false)] body ↔
      body.isFalsy = false ∧ ¬ passes body (parameter.keywords false) := by
    have together := rejects_together lenient [BodyPath.wholeBody] [parameter.keywords false] body
    have alone : RuleSet.extend ∅ (parameter.keywords false) = parameter.keywords false :=
      RuleSet.empty_extend _
    rw [List.map_singleton, List.foldl_cons, List.foldl_nil, alone,
      ← BodyPath.segments_wholeBody, BodyPath.resolve_wholeBody] at together
    rw [← BodyPath.segments_wholeBody, together]
    cases body.isFalsy <;> simp
  rw [fields, ← List.singleton_append, rejects_append lenient apart, own, rejects,
    Definitions.BodyConforms]
  simp only [isSchema, Option.some.injEq, forall_eq']
  cases isFalsy : body.isFalsy with
  | true =>
    have conforms : definitions.Conforms passes schema body :=
      (Definitions.conforms_iff definitions passes schema body).mpr (.inl isFalsy)
    simp [conforms]
  | false =>
    simp only [true_and, Bool.false_eq_true, false_or, Classical.not_and_iff_not_or_not]

end Document

end Walk
end WireContract

import WireContract.Proofs.WalkMachine

/-!
The dependency path of a walk. Main statements: `Sound.of_runs`, what holds of it in every state that a
walk passes through, and `followsReferences`, what becomes of the references met there.
-/

namespace WireContract
namespace Walk

def Task.site? : Task → Option String
  | .follow path _ => some path
  | .branches path _ => some path
  | _ => none

variable (definitions : Definitions)

/-- What holds in every state of a walk. -/
structure Sound (state : State) : Prop where
  /-- the open definitions are those to return from -/
  returns : state.pending.filterMap Task.closes? = state.dependencies
  traced : state.taken.foldl WalkStep.openAfter [] = state.dependencies
  present : ∀ name ∈ state.dependencies, name ∈ definitions.nodes.keys
  distinct : state.dependencies.Nodup
  /-- what refers has been reached, if it is not the whole body -/
  announced : ∀ task ∈ state.pending, ∀ path, task.site? = some path →
    path = "" ∨ ∃ keywords, .field path keywords ∈ state.taken

variable {definitions}

theorem Sound.start (parameter : SchemaNode) : Sound definitions (.start parameter) where
  returns := rfl
  traced := rfl
  present := by simp [State.start]
  distinct := .nil
  announced := by simp [State.start, Task.site?]

/-- The tasks of a step that neither opens nor closes a definition stand for the first pending one. -/
theorem Sound.replace {task : Task} {rest : List Task} {dependencies : List String}
    {taken : List WalkStep} (sound : Sound definitions ⟨task :: rest, dependencies, taken⟩)
    (tasks : List Task) (steps : List WalkStep) (inner : task.closes? = none)
    (closesNothing : ∀ task ∈ tasks, task.closes? = none)
    (level : ∀ step ∈ steps, ∀ path, step.openAfter path = path)
    (sites : ∀ task ∈ tasks, ∀ path, task.site? = some path →
      path = "" ∨ ∃ keywords, .field path keywords ∈ taken ++ steps) :
    Sound definitions ⟨tasks ++ rest, dependencies, taken ++ steps⟩ where
  returns := by
    have returns := sound.returns
    rw [List.filterMap_cons_none inner] at returns
    rw [List.filterMap_append, List.filterMap_eq_nil_iff.mpr closesNothing]
    exact returns
  traced := by
    rw [List.foldl_append, sound.traced]
    have stays : ∀ steps : List WalkStep, (∀ step ∈ steps, ∀ path, step.openAfter path = path) →
        ∀ path, steps.foldl WalkStep.openAfter path = path := by
      intro steps level
      induction steps with
      | nil => exact fun _ => rfl
      | cons step steps stays =>
        intro path
        rw [List.foldl_cons, level step (by simp)]
        exact stays (fun step member => level step (by simp [member])) path
    exact stays steps level dependencies
  present := sound.present
  distinct := sound.distinct
  announced := by
    intro task member path site
    rcases List.mem_append.mp member with new | old
    · exact sites task new path site
    · rcases sound.announced task (by simp [old]) path site with root | ⟨keywords, reached⟩
      · exact .inl root
      · exact .inr ⟨keywords, List.mem_append_left _ reached⟩

theorem openAfter_reach {path : String} {current : SchemaNode} {listed : Bool} :
    ∀ step ∈ reach path current listed, ∀ dependencies, step.openAfter dependencies = dependencies := by
  intro step member dependencies
  unfold reach at member
  split at member
  · simp at member
  · obtain rfl := List.mem_singleton.mp member
    rfl

theorem mem_reach {path : String} (field : path ≠ "") (current : SchemaNode) (listed : Bool) :
    .field path (current.keywords listed) ∈ reach path current listed := by
  simp [reach, field]

theorem closes?_ofSchema {location : Location} {schema : Option SchemaNode} :
    ∀ task ∈ Task.ofSchema location schema, task.closes? = none ∧ task.site? = none := by
  intro task member
  unfold Task.ofSchema at member
  split at member
  · split at member
    · obtain rfl := List.mem_singleton.mp member
      exact ⟨rfl, rfl⟩
    · simp at member
  · simp at member

theorem closes?_beyond {path : String} {reference : Option String} {current : SchemaNode} :
    ∀ task ∈ Task.beyond path reference current,
      task.closes? = none ∧ ∀ site, task.site? = some site → site = path := by
  intro task member
  unfold Task.beyond at member
  split at member
  · obtain rfl := List.mem_singleton.mp member
    exact ⟨rfl, fun site same => (Option.some.inj same).symm⟩
  · simp only [List.mem_cons, List.not_mem_nil, or_false] at member
    rcases member with rfl | rfl
    · exact ⟨rfl, fun site same => (Option.some.inj same).symm⟩
    · exact ⟨rfl, fun site same => by simp [Task.site?] at same⟩

theorem Sound.enter {task : Task} {rest : List Task} {dependencies : List String}
    {taken : List WalkStep} (sound : Sound definitions ⟨task :: rest, dependencies, taken⟩)
    (others : List Task) (inner : task.closes? = none)
    (silent : ∀ task ∈ others, task.closes? = none ∧ task.site? = none)
    (path : String) (reference : Option String) (current : SchemaNode) (listed : Bool) :
    Sound definitions ⟨(Task.beyond path reference current ++ others) ++ rest, dependencies,
      taken ++ reach path current listed⟩ := by
  refine sound.replace _ _ inner ?_ openAfter_reach ?_
  · intro task member
    rcases List.mem_append.mp member with entered | other
    · exact (closes?_beyond task entered).1
    · exact (silent task other).1
  · intro task member site isSite
    rcases List.mem_append.mp member with entered | other
    · obtain rfl := (closes?_beyond task entered).2 site isSite
      by_cases root : site = ""
      · exact .inl root
      · exact .inr ⟨_, List.mem_append_right _ (mem_reach root current listed)⟩
    · rw [(silent task other).2] at isSite
      contradiction

theorem Sound.pass {task : Task} {rest : List Task} {dependencies : List String}
    {taken : List WalkStep} (sound : Sound definitions ⟨task :: rest, dependencies, taken⟩)
    (tasks : List Task) (steps : List WalkStep) (inner : task.closes? = none)
    (silent : ∀ task ∈ tasks, task.closes? = none ∧ task.site? = none)
    (level : ∀ step ∈ steps, ∀ path, step.openAfter path = path) :
    Sound definitions ⟨tasks ++ rest, dependencies, taken ++ steps⟩ := by
  refine sound.replace _ _ inner (fun task member => (silent task member).1) level ?_
  intro task member path site
  rw [(silent task member).2] at site
  contradiction

theorem Sound.skip {task : Task} {rest : List Task} {dependencies : List String}
    {taken : List WalkStep} (sound : Sound definitions ⟨task :: rest, dependencies, taken⟩)
    (inner : task.closes? = none) : Sound definitions ⟨rest, dependencies, taken⟩ := by
  simpa using sound.pass [] [] inner (by simp) (by simp)

theorem Sound.opens {path reference name : String} {target : SchemaNode} {rest : List Task}
    {dependencies : List String} {taken : List WalkStep}
    (sound : Sound definitions ⟨.follow path reference :: rest, dependencies, taken⟩)
    (present : name ∈ definitions.nodes.keys) (fresh : name ∉ dependencies) :
    Sound definitions ⟨.node path false target :: .close name :: rest, name :: dependencies,
      taken ++ [.opened name path]⟩ where
  returns := by
    have returns := sound.returns
    simpa [List.filterMap_cons, Task.closes?] using returns
  traced := by
    rw [List.foldl_append, sound.traced]
    rfl
  present := by
    intro other member
    rcases List.mem_cons.mp member with rfl | deeper
    · exact present
    · exact sound.present other deeper
  distinct := List.nodup_cons.mpr ⟨fresh, sound.distinct⟩
  announced := by
    intro task member path site
    -- neither the definition nor the return from it refers
    have old : task ∈ rest := by
      rcases List.mem_cons.mp member with rfl | member
      · simp [Task.site?] at site
      rcases List.mem_cons.mp member with rfl | member
      · simp [Task.site?] at site
      exact member
    rcases sound.announced task (List.mem_cons_of_mem _ old) path site with root | ⟨keywords, reached⟩
    · exact .inl root
    · exact .inr ⟨keywords, List.mem_append_left _ reached⟩

theorem Sound.closes {name : String} {rest : List Task} {dependencies : List String}
    {taken : List WalkStep}
    (sound : Sound definitions ⟨.close name :: rest, dependencies, taken⟩) :
    Sound definitions ⟨rest, dependencies.tail, taken ++ [.closed name]⟩ := by
  have returns : name :: rest.filterMap Task.closes? = dependencies := by
    simpa [Task.closes?] using sound.returns
  subst returns
  exact {
    returns := rfl
    traced := by
      rw [List.foldl_append, sound.traced]
      rfl
    present := fun other member => sound.present other (List.mem_cons_of_mem _ member)
    distinct := (List.nodup_cons.mp sound.distinct).2
    announced := by
      intro task member path site
      rcases sound.announced task (List.mem_cons_of_mem _ member) path site with
        root | ⟨keywords, reached⟩
      · exact .inl root
      · exact .inr ⟨keywords, List.mem_append_left _ reached⟩ }

theorem Sound.advance {earlier later : State} (sound : Sound definitions earlier)
    (step : advance definitions earlier = some later) : Sound definitions later := by
  obtain ⟨pending, dependencies, taken⟩ := earlier
  cases pending with
  | nil => simp [Walk.advance] at step
  | cons task rest =>
  cases task with
  | parameter parameter =>
    simp only [Walk.advance] at step
    cases place : parameter.place? with
    | none =>
      simp only [place, Option.some.injEq] at step
      subst step
      exact sound.skip rfl
    | some found =>
      obtain ⟨location, path⟩ := found
      have plain : Sound definitions ⟨Task.ofSchema location parameter.schema ++ rest, dependencies,
          taken ++ reach path parameter false⟩ :=
        sound.pass _ _ rfl closes?_ofSchema openAfter_reach
      cases isItems : parameter.items with
      | none =>
        simp only [place, isItems, Option.some.injEq] at step
        exact step ▸ plain
      | some items =>
        by_cases isList : (location == .query && parameter.isArray) = true
        · simp only [place, isItems, isList, if_true, Option.some.injEq] at step
          subst step
          exact sound.pass [] _ rfl (by simp) openAfter_reach
        · simp only [place, isItems, isList, Bool.false_eq_true, if_false, Option.some.injEq] at step
          exact step ▸ plain
  | body schema =>
    simp only [Walk.advance] at step
    cases refers : schema.reference with
    | some reference =>
      simp only [refers, Option.some.injEq] at step
      subst step
      simpa using sound.replace [.follow "" reference] [] rfl
        (by simp [Task.closes?]) (by simp) (by simp [Task.site?])
    | none =>
      by_cases composite : schema.isComposite = true
      · simp only [refers, composite, if_true, Option.some.injEq] at step
        subst step
        simpa using sound.pass [.node "" false schema] [] rfl
          (by simp [Task.closes?, Task.site?]) (by simp)
      · simp only [refers, composite, Bool.false_eq_true, if_false, Option.some.injEq] at step
        subst step
        exact sound.pass [] _ rfl (by simp) openAfter_reach
  | node path listed node =>
    obtain rfl := Option.some.inj step
    simpa using sound.enter [] rfl (by simp) path node.reference node listed
  | branches path branches =>
    cases branches with
    | nil =>
      obtain rfl := Option.some.inj step
      exact sound.skip rfl
    | cons branch more =>
      have reached := sound.announced _ (List.mem_cons_self ..) path rfl
      simp only [Walk.advance] at step
      cases refers : branch.reference with
      | some reference =>
        simp only [refers, Option.some.injEq] at step
        subst step
        simpa using sound.replace [.follow path reference, .branches path more] []
          rfl (by simp [Task.closes?]) (by simp) (by simpa [Task.site?] using reached)
      | none =>
        simp only [refers, Option.some.injEq] at step
        subst step
        simpa using sound.replace [.node path false branch, .branches path more] []
          rfl (by simp [Task.closes?]) (by simp) (by simpa [Task.site?] using reached)
  | properties path required members =>
    cases members with
    | nil =>
      obtain rfl := Option.some.inj step
      exact sound.skip rfl
    | cons member more =>
      obtain ⟨key, property⟩ := member
      obtain rfl := Option.some.inj step
      simpa using sound.enter [.properties path required more] rfl
        (by simp [Task.closes?, Task.site?]) (property.slot (BodyPath.join path key)) property.referral?
        property.laid (required.contains key)
  | follow path reference =>
    simp only [Walk.advance] at step
    cases resolved : definitions.target? reference with
    | none =>
      simp only [resolved, Option.some.injEq] at step
      subst step
      exact sound.skip rfl
    | some found =>
      obtain ⟨⟨name, target⟩, present⟩ := found
      by_cases isOpen : dependencies.contains name = true
      · simp only [resolved, isOpen, if_true, Option.some.injEq] at step
        subst step
        exact sound.pass [] _ rfl (by simp) (by simp [WalkStep.openAfter])
      · simp only [resolved, isOpen, Bool.false_eq_true, if_false, Option.some.injEq] at step
        subst step
        exact sound.opens present (by simpa using isOpen)
  | close name =>
    obtain rfl := Option.some.inj step
    exact sound.closes

theorem Sound.of_runs {earlier later : State} (sound : Sound definitions earlier)
    (runs : Runs definitions earlier later) : Sound definitions later := by
  induction runs with
  | refl => exact sound
  | tail _ step passed => exact passed.advance step

theorem finishes_beyond (definitions : Definitions) (dependencies : List String) (path : String)
    (reference : Option String) (current : SchemaNode) :
    Finishes definitions (Task.beyond path reference current) dependencies
      (beyond definitions dependencies path reference current) := by
  cases reference with
  | some reference => exact (finishes_all definitions).2.2.1 dependencies path reference
  | none =>
    exact ((finishes_all definitions).2.2.2 dependencies path current.branches).append
      ((finishes_all definitions).2.1 dependencies path current.requiredFields current.members)

theorem runs_properties (definitions : Definitions) (dependencies : List String) (path : String)
    (required : List String) (before after : List (String × SchemaNode)) :
    ∃ steps, ∀ rest taken,
      Runs definitions ⟨.properties path required (before ++ after) :: rest, dependencies, taken⟩
        ⟨.properties path required after :: rest, dependencies, taken ++ steps⟩ := by
  induction before with
  | nil =>
    refine ⟨[], fun rest taken => ?_⟩
    rw [List.append_nil]
    exact .refl
  | cons member before passed =>
    obtain ⟨key, property⟩ := member
    obtain ⟨steps, passed⟩ := passed
    let slot := property.slot (BodyPath.join path key)
    let reached := reach slot property.laid (required.contains key)
    let entered := beyond definitions dependencies slot property.referral? property.laid
    refine ⟨reached ++ entered ++ steps, fun rest taken => ?_⟩
    have through := finishes_beyond definitions dependencies slot property.referral? property.laid
      (.properties path required (before ++ after) :: rest) (taken ++ reached)
    have left := passed rest (taken ++ reached ++ entered)
    rw [← List.append_assoc, ← List.append_assoc]
    exact .step rfl (through.trans left)

theorem runs_branches (definitions : Definitions) (dependencies : List String) (path : String)
    (before after : List SchemaNode) :
    ∃ steps, ∀ rest taken,
      Runs definitions ⟨.branches path (before ++ after) :: rest, dependencies, taken⟩
        ⟨.branches path after :: rest, dependencies, taken ++ steps⟩ := by
  induction before with
  | nil =>
    refine ⟨[], fun rest taken => ?_⟩
    rw [List.append_nil]
    exact .refl
  | cons branch before passed =>
    obtain ⟨steps, passed⟩ := passed
    have finishes := finishes_all definitions
    cases refers : branch.reference with
    | some reference =>
      refine ⟨follow definitions dependencies path reference ++ steps, fun rest taken => ?_⟩
      have through := finishes.2.2.1 dependencies path reference
        (.branches path (before ++ after) :: rest) taken
      rw [← List.append_assoc]
      refine .step ?_ (through.trans (passed rest _))
      simp only [List.cons_append, Walk.advance, refers, List.nil_append]
    | none =>
      refine ⟨node definitions dependencies path false branch ++ steps, fun rest taken => ?_⟩
      have through := finishes_node (finishes.1 dependencies path false branch) false
        (.branches path (before ++ after) :: rest) taken
      rw [← List.append_assoc]
      refine .step ?_ (through.trans (passed rest _))
      simp only [List.cons_append, Walk.advance, refers, List.nil_append]

end Walk

def Definitions.Resolves (definitions : Definitions) (reference name : String) (target : SchemaNode) :
    Prop :=
  nameIn? definitions.root reference = some name ∧ definitions.nodes.get? name = some target

theorem Definitions.target?_of_resolves {definitions : Definitions} {reference name : String}
    {target : SchemaNode} (resolves : definitions.Resolves reference name target) :
    ∃ present, definitions.target? reference = some ⟨(name, target), present⟩ := by
  obtain ⟨named, known⟩ := resolves
  have entry : (name, target) ∈ definitions.nodes.entries := Dict.get?_eq_some_iff.mp known
  refine ⟨List.mem_map.mpr ⟨_, entry, rfl⟩, ?_⟩
  unfold target?
  rw [named]
  simp only
  split
  · next absent =>
    rw [known] at absent
    contradiction
  · next found isFound =>
    obtain rfl := Option.some.inj (isFound.symm.trans known)
    rfl

theorem Definitions.resolves_of_target? {definitions : Definitions} {reference name : String}
    {target : SchemaNode} {present : (name, target).1 ∈ definitions.nodes.keys}
    (found : definitions.target? reference = some ⟨(name, target), present⟩) :
    definitions.Resolves reference name target := by
  unfold target? at found
  split at found
  · contradiction
  · next named =>
    split at found
    · contradiction
    · next node known =>
      cases found
      exact ⟨named, known⟩

namespace Walk

/-- What becomes of the references of a state. Those of siblings are followed under the same
dependency path, whatever lies before them. -/
structure FollowsReferences (definitions : Definitions) (state : State) : Prop where
  /-- a definition that is not open is entered, and closed when it is done -/
  expands : ∀ path reference rest name target,
    state.pending = .follow path reference :: rest → definitions.Resolves reference name target →
    name ∉ state.dependencies →
      Runs definitions state ⟨rest, state.dependencies, state.taken ++ .opened name path ::
        (node definitions (name :: state.dependencies) path false target ++ [.closed name])⟩
  cuts : ∀ path reference rest name target,
    state.pending = .follow path reference :: rest → definitions.Resolves reference name target →
    name ∈ state.dependencies →
      Runs definitions state ⟨rest, state.dependencies, state.taken ++ [.cut name path]⟩
  skips : ∀ path reference rest,
    state.pending = .follow path reference :: rest →
    (¬ ∃ name target, definitions.Resolves reference name target) →
      Runs definitions state ⟨rest, state.dependencies, state.taken⟩
  ofBody : ∀ schema rest reference,
    state.pending = .body schema :: rest → schema.reference = some reference →
      Runs definitions state ⟨.follow "" reference :: rest, state.dependencies, state.taken⟩
  ofNode : ∀ path listed current rest reference,
    state.pending = .node path listed current :: rest → current.reference = some reference →
      Runs definitions state ⟨.follow path reference :: rest, state.dependencies,
        state.taken ++ reach path current listed⟩
  ofBranch : ∀ path before branch after rest reference,
    state.pending = .branches path (before ++ branch :: after) :: rest →
    branch.reference = some reference →
      ∃ steps, Runs definitions state
        ⟨.follow path reference :: .branches path after :: rest, state.dependencies,
          state.taken ++ steps⟩
  ofProperty : ∀ path required before key (property : SchemaNode) after rest reference,
    state.pending = .properties path required (before ++ (key, property) :: after) :: rest →
    property.referral? = some reference →
      ∃ steps, Runs definitions state
        ⟨.follow (property.slot (BodyPath.join path key)) reference ::
            .properties path required after :: rest, state.dependencies,
          state.taken ++ (steps ++ reach (property.slot (BodyPath.join path key)) property.laid
            (required.contains key))⟩

theorem followsReferences (definitions : Definitions) (state : State) :
    FollowsReferences definitions state := by
  obtain ⟨pending, dependencies, taken⟩ := state
  constructor
  case expands =>
    rintro path reference rest name target rfl resolves fresh
    obtain ⟨present, resolved⟩ := Definitions.target?_of_resolves resolves
    have finishes := (finishes_all definitions).2.2.1 dependencies path reference rest taken
    rw [follow_fresh definitions dependencies resolved (by simpa using fresh)] at finishes
    exact finishes
  case cuts =>
    rintro path reference rest name target rfl resolves isOpen
    obtain ⟨present, resolved⟩ := Definitions.target?_of_resolves resolves
    have finishes := (finishes_all definitions).2.2.1 dependencies path reference rest taken
    rw [follow_open definitions dependencies resolved (by simpa using isOpen)] at finishes
    exact finishes
  case skips =>
    rintro path reference rest rfl nowhere
    have unresolved : definitions.target? reference = none := by
      cases found : definitions.target? reference with
      | none => rfl
      | some target =>
        obtain ⟨⟨name, target⟩, present⟩ := target
        exact absurd ⟨name, target, Definitions.resolves_of_target? found⟩ nowhere
    have finishes := (finishes_all definitions).2.2.1 dependencies path reference rest taken
    rw [follow_unresolved definitions dependencies unresolved, List.append_nil] at finishes
    exact finishes
  case ofBody =>
    rintro schema rest reference rfl refers
    refine .step ?_ .refl
    simp only [Walk.advance, refers]
  case ofNode =>
    rintro path listed current rest reference rfl refers
    refine .step ?_ .refl
    simp only [Walk.advance, refers, Task.beyond, List.singleton_append]
  case ofBranch =>
    rintro path before branch after rest reference rfl refers
    obtain ⟨steps, passed⟩ := runs_branches definitions dependencies path before
      (branch :: after)
    refine ⟨steps, (passed rest taken).trans (Runs.step ?_ .refl)⟩
    simp only [Walk.advance, refers]
  case ofProperty =>
    rintro path required before key property after rest reference rfl refers
    obtain ⟨steps, passed⟩ := runs_properties definitions dependencies path required before
      ((key, property) :: after)
    refine ⟨steps, (passed rest taken).trans (Runs.step ?_ .refl)⟩
    simp only [Walk.advance, refers, Task.beyond, List.singleton_append, List.append_assoc]

theorem filterMap_walked (definitions : Definitions) (parameter : SchemaNode) :
    (parameter.walked definitions).filterMap WalkStep.field? =
      (parameter.reached definitions).map fun reached => (reached.path, reached.keywords) := by
  unfold SchemaNode.walked SchemaNode.reached
  cases parameter.place? with
  | none => rfl
  | some place =>
    simp only [List.map_map]
    exact (List.map_id _).symm

/-- The walk of a parameter ends, with the fields that the parameter is compiled from. In every state on
the way the dependency path is sound, and references are followed or cut by it. -/
theorem walk_ends_and_cuts_cycles (definitions : Definitions) (parameter : SchemaNode) :
    Acc (fun later earlier => advance definitions earlier = some later) (.start parameter) ∧
      (∃ taken, Runs definitions (.start parameter) ⟨[], [], taken⟩ ∧
        taken.filterMap WalkStep.field? =
          (parameter.reached definitions).map fun reached => (reached.path, reached.keywords)) ∧
      ∀ state, Runs definitions (.start parameter) state →
        Sound definitions state ∧ FollowsReferences definitions state := by
  have ends := runs_parameter definitions parameter
  refine ⟨accessible_of_runs ends rfl, ⟨_, ends, filterMap_walked definitions parameter⟩, ?_⟩
  intro state runs
  exact ⟨(Sound.start parameter).of_runs runs, followsReferences definitions state⟩

def bodyOf (property : SchemaNode) : SchemaNode :=
  { SchemaNode.empty with
    name := some "b"
    location := some "body"
    schema := some { SchemaNode.empty with properties := some [("p", property)] } }

def referringArray : SchemaNode :=
  { SchemaNode.empty with
    type := some "array"
    reference := some "#/definitions/D"
    items := some { SchemaNode.empty with rules := { RuleSet.empty with maxLength := some 5 } }
    rules := { RuleSet.empty with maxLength := some 3 } }

def nestedArray : SchemaNode :=
  { SchemaNode.empty with
    type := some "array"
    items := some { SchemaNode.empty with
      type := some "array"
      items := some { SchemaNode.empty with reference := some "#/definitions/D" } } }

def oneDefinition : Definitions := ⟨Dict.ofList [("D", SchemaNode.empty)], Definitions.defaultRoot⟩

theorem walked_bodyOf (definitions : Definitions) (property : SchemaNode) :
    (bodyOf property).walked definitions =
      .field BodyPath.wholeBody ∅ :: (reach (property.slot "p") property.laid false ++
        beyond definitions [] (property.slot "p") property.referral? property.laid) := by
  let schema : SchemaNode := { SchemaNode.empty with properties := some [("p", property)] }
  have entered : (bodyOf property).walked definitions =
      [.field BodyPath.wholeBody ∅] ++ node definitions [] "" false schema := rfl
  have opened : beyond definitions [] "" schema.reference schema =
      branches definitions [] "" [] ++ properties definitions [] "" [] [("p", property)] := rfl
  have root : reach "" schema false = [] := rfl
  have unlisted : ([] : List String).contains "p" = false := rfl
  have joined : BodyPath.join "" "p" = "p" := rfl
  rw [entered, node_eq, root, opened, branches_nil, properties_cons, properties_nil, unlisted, joined]
  simp

theorem beyond_leaf (definitions : Definitions) (dependencies : List String) (path : String)
    {leaf : SchemaNode} (inline : leaf.reference = none) (noBranches : leaf.branches = [])
    (noMembers : leaf.members = []) :
    beyond definitions dependencies path leaf.reference leaf = [] := by
  rw [inline, beyond, noBranches, noMembers, branches_nil, properties_nil, List.append_nil]

/-- The keywords of a referring array give way to those of its items, and what the items of inner arrays
refer to is not entered. -/
theorem overlaid_keywords_and_inner_items :
    (.opened "D" "p[]" ∈ (bodyOf referringArray).walked oneDefinition ∧
      ∀ path, .field path (referringArray.keywords false) ∉
        (bodyOf referringArray).walked oneDefinition) ∧
    oneDefinition.Resolves "#/definitions/D" "D" SchemaNode.empty ∧
      ∀ path, .opened "D" path ∉ (bodyOf nestedArray).walked oneDefinition ∧
        .cut "D" path ∉ (bodyOf nestedArray).walked oneDefinition := by
  have resolves : oneDefinition.Resolves "#/definitions/D" "D" SchemaNode.empty := ⟨by decide, rfl⟩
  have referring : (bodyOf referringArray).walked oneDefinition =
      [.field "$body$" ∅, .field "p[]" { RuleSet.empty with maxLength := some 5 }, .opened "D" "p[]",
        .field "p[]" ∅, .closed "D"] := by
    obtain ⟨_, resolved⟩ := Definitions.target?_of_resolves resolves
    have followed : beyond oneDefinition [] (referringArray.slot "p") referringArray.referral?
        referringArray.laid = follow oneDefinition [] "p[]" "#/definitions/D" := rfl
    rw [walked_bodyOf, followed, follow_fresh _ _ resolved (by decide), node_eq,
      beyond_leaf _ _ _ rfl rfl rfl]
    rfl
  have nested : (bodyOf nestedArray).walked oneDefinition =
      [.field "$body$" ∅, .field "p[]" ∅] := by
    have inline : nestedArray.referral? = nestedArray.laid.reference := rfl
    rw [walked_bodyOf, inline, beyond_leaf _ _ _ rfl rfl rfl]
    rfl
  have own : (referringArray.keywords false).maxLength = some 3 := rfl
  refine ⟨⟨by simp [referring], ?_⟩, resolves, by simp [nested]⟩
  intro path member
  simp only [referring, List.mem_cons, WalkStep.field.injEq, reduceCtorEq, List.not_mem_nil,
    or_false, false_or] at member
  rcases member with ⟨_, same⟩ | ⟨_, same⟩ | ⟨_, same⟩
  · rw [same] at own
    contradiction
  · rw [same] at own
    contradiction
  · rw [same] at own
    contradiction

end Walk
end WireContract

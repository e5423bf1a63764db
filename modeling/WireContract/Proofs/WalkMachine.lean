import Mathlib.Logic.Relation
import WireContract.Proofs.Referral
import WireContract.Schema.Compilation

/-!
Walks step by step, with the dependency path as a state that references push to and returns pop from.
Nothing in a step looks at how much is left, so that it has to be proved that every run ends. Main
statements: `finishes_all`, that a task takes the steps of its walk and restores the dependency path, and
`runs_parameter`, that a run ends with the walk of the parameter.
-/

namespace WireContract

namespace SchemaNode

def walked (definitions : Definitions) (parameter : SchemaNode) : List WalkStep :=
  match parameter.place? with
  | some (location, path) => parameter.steps definitions location path
  | none => []

end SchemaNode

namespace Walk

inductive Task
  | parameter (parameter : SchemaNode)
  | body (schema : SchemaNode)
  | node (path : String) (listed : Bool) (node : SchemaNode)
  | branches (path : String) (branches : List SchemaNode)
  | properties (path : String) (required : List String) (members : List (String × SchemaNode))
  | follow (path reference : String)
  /-- the return from the definition `name` -/
  | close (name : String)

structure State where
  pending : List Task
  dependencies : List String
  taken : List WalkStep

namespace Task

def beyond (path : String) (reference : Option String) (node : SchemaNode) : List Task :=
  match reference with
  | some reference => [.follow path reference]
  | none => [.branches path node.branches, .properties path node.requiredFields node.members]

def ofSchema (location : Location) : Option SchemaNode → List Task
  | some schema => if location == .body then [.body schema] else []
  | none => []

/-- The definition that a task returns from. -/
def closes? : Task → Option String
  | .close name => some name
  | _ => none

end Task

namespace State

def start (parameter : SchemaNode) : State := ⟨[.parameter parameter], [], []⟩

end State

variable (definitions : Definitions)

def advance : State → Option State
  | ⟨[], _, _⟩ => none
  | ⟨.parameter parameter :: rest, dependencies, taken⟩ =>
    match parameter.place? with
    | none => some ⟨rest, dependencies, taken⟩
    | some (location, path) =>
      match parameter.items with
      | some items =>
        if location == .query && parameter.isArray then
          some ⟨rest, dependencies, taken ++ reach path (parameter.overlay items) false⟩
        else
          some ⟨Task.ofSchema location parameter.schema ++ rest, dependencies,
            taken ++ reach path parameter false⟩
      | none =>
        some ⟨Task.ofSchema location parameter.schema ++ rest, dependencies,
          taken ++ reach path parameter false⟩
  | ⟨.body schema :: rest, dependencies, taken⟩ =>
    match schema.reference with
    | some reference => some ⟨.follow "" reference :: rest, dependencies, taken⟩
    | none =>
      if schema.isComposite then some ⟨.node "" false schema :: rest, dependencies, taken⟩
      else some ⟨rest, dependencies, taken ++ reach BodyPath.wholeBody schema false⟩
  | ⟨.node path listed node :: rest, dependencies, taken⟩ =>
    some ⟨Task.beyond path node.reference node ++ rest, dependencies,
      taken ++ reach path node listed⟩
  | ⟨.branches _ [] :: rest, dependencies, taken⟩ => some ⟨rest, dependencies, taken⟩
  | ⟨.branches path (branch :: more) :: rest, dependencies, taken⟩ =>
    match branch.reference with
    | some reference =>
      some ⟨.follow path reference :: .branches path more :: rest, dependencies, taken⟩
    | none => some ⟨.node path false branch :: .branches path more :: rest, dependencies, taken⟩
  | ⟨.properties _ _ [] :: rest, dependencies, taken⟩ => some ⟨rest, dependencies, taken⟩
  | ⟨.properties path required ((key, property) :: more) :: rest, dependencies, taken⟩ =>
    let slot := property.slot (BodyPath.join path key)
    some ⟨Task.beyond slot property.referral? property.laid ++ .properties path required more :: rest,
      dependencies, taken ++ reach slot property.laid (required.contains key)⟩
  | ⟨.follow path reference :: rest, dependencies, taken⟩ =>
    match definitions.target? reference with
    | none => some ⟨rest, dependencies, taken⟩
    | some ⟨(name, target), _⟩ =>
      if dependencies.contains name then some ⟨rest, dependencies, taken ++ [.cut name path]⟩
      else
        some ⟨.node path false target :: .close name :: rest, name :: dependencies,
          taken ++ [.opened name path]⟩
  | ⟨.close name :: rest, dependencies, taken⟩ =>
    some ⟨rest, dependencies.tail, taken ++ [.closed name]⟩

def Runs : State → State → Prop :=
  Relation.ReflTransGen fun earlier later => advance definitions earlier = some later

variable {definitions}

theorem Runs.step {earlier next later : State} (step : advance definitions earlier = some next)
    (runs : Runs definitions next later) : Runs definitions earlier later :=
  .head step runs

variable (definitions)

/-- A task that is done has taken the steps of its walk and left the dependency path as it was. -/
def Finishes (tasks : List Task) (dependencies : List String) (steps : List WalkStep) : Prop :=
  ∀ rest taken,
    Runs definitions ⟨tasks ++ rest, dependencies, taken⟩ ⟨rest, dependencies, taken ++ steps⟩

variable {definitions}

theorem Finishes.append {front back : List Task} {dependencies : List String}
    {first second : List WalkStep} (one : Finishes definitions front dependencies first)
    (other : Finishes definitions back dependencies second) :
    Finishes definitions (front ++ back) dependencies (first ++ second) := by
  intro rest taken
  have through := one (back ++ rest) taken
  rw [List.append_assoc, ← List.append_assoc taken]
  exact through.trans (other rest (taken ++ first))

theorem finishes_node {dependencies : List String} {path : String} {current : SchemaNode}
    (entered : Finishes definitions (Task.beyond path current.reference current) dependencies
      (beyond definitions dependencies path current.reference current)) (listed : Bool) :
    Finishes definitions [.node path listed current] dependencies
      (node definitions dependencies path listed current) := by
  intro rest taken
  refine .step rfl ?_
  rw [node_eq, ← List.append_assoc]
  exact entered rest (taken ++ reach path current listed)

variable (definitions)

theorem finishes_all :
    (∀ dependencies path (_ : Bool) current,
      Finishes definitions (Task.beyond path current.reference current) dependencies
        (beyond definitions dependencies path current.reference current)) ∧
    (∀ dependencies path required members,
      Finishes definitions [.properties path required members] dependencies
        (properties definitions dependencies path required members)) ∧
    (∀ dependencies path reference,
      Finishes definitions [.follow path reference] dependencies
        (follow definitions dependencies path reference)) ∧
    (∀ dependencies path all,
      Finishes definitions [.branches path all] dependencies
        (branches definitions dependencies path all)) := by
  -- along the recursion of the walk itself, which gives a hypothesis for each task that a step leaves
  apply Walk.node.mutual_induct definitions
  case case1 =>
    intro dependencies path _ current follows branches properties
    cases current.reference with
    | some reference => exact follows reference
    | none => exact branches.append properties
  case case2 =>
    intro dependencies path required rest taken
    rw [properties_nil, List.append_nil]
    exact .step rfl .refl
  case case3 =>
    intro dependencies path required key property more listed child follows overlaid plain others
    let slot := property.slot child
    have entered : Finishes definitions (Task.beyond slot property.referral? property.laid) dependencies
        (beyond definitions dependencies slot property.referral? property.laid) := by
      refine property.entered (motive := fun slot referral? laid =>
        Finishes definitions (Task.beyond slot referral? laid) dependencies
          (beyond definitions dependencies slot referral? laid)) ?_ ?_ ?_
      · intro items reference _ _
        exact follows reference
      · intro items found _
        have isItems : property.items = some items := by
          simp only [SchemaNode.element?, Option.ite_none_right_eq_some] at found
          exact found.2
        exact overlaid items isItems
      · intro _
        exact plain
    intro rest taken
    rw [properties_cons]
    refine .step rfl ?_
    have done := (entered.append others) rest (taken ++ reach slot property.laid listed)
    rw [List.append_assoc (Task.beyond _ _ _)] at done
    rw [List.append_assoc, ← List.append_assoc taken]
    exact done
  case case4 =>
    intro dependencies path reference unresolved rest taken
    rw [follow_unresolved definitions dependencies unresolved, List.append_nil]
    refine .step ?_ .refl
    simp only [List.singleton_append, advance, unresolved]
  case case5 =>
    intro dependencies path reference name target present resolved isOpen rest taken
    rw [follow_open definitions dependencies resolved isOpen]
    refine .step ?_ .refl
    simp only [List.singleton_append, advance, resolved, isOpen, if_true]
  case case6 =>
    intro dependencies path reference name target present resolved fresh within rest taken
    rw [follow_fresh definitions dependencies resolved fresh]
    have done := finishes_node within false (.close name :: rest) (taken ++ [.opened name path])
    refine .step ?_ (done.trans (Runs.step rfl ?_))
    · simp only [List.singleton_append, advance, resolved, fresh, Bool.false_eq_true, if_false]
    simp only [List.tail_cons, List.append_assoc, List.singleton_append]
    exact .refl
  case case7 =>
    intro dependencies path rest taken
    rw [branches_nil, List.append_nil]
    exact .step rfl .refl
  case case8 =>
    intro dependencies path branch more follows inline others rest taken
    cases refers : branch.reference with
    | some reference =>
      rw [branches_referral definitions dependencies refers]
      refine .step ?_ ((follows reference).append others rest taken)
      simp only [advance, refers, List.cons_append, List.nil_append]
    | none =>
      rw [branches_inline definitions dependencies refers]
      refine .step ?_ ((finishes_node inline false).append others rest taken)
      simp only [advance, refers, List.cons_append, List.nil_append]

theorem finishes_body (schema : SchemaNode) :
    Finishes definitions [.body schema] [] (body definitions schema) := by
  intro rest taken
  unfold body
  cases refers : schema.reference with
  | some reference =>
    refine .step ?_ ((finishes_all definitions).2.2.1 [] "" reference rest taken)
    simp only [List.singleton_append, advance, refers]
  | none =>
    by_cases composite : schema.isComposite = true
    · rw [if_pos composite]
      refine .step ?_ (finishes_node ((finishes_all definitions).1 [] "" false schema) false rest taken)
      simp only [List.singleton_append, advance, refers, composite, if_true]
    · rw [if_neg composite]
      refine .step ?_ .refl
      simp only [List.singleton_append, advance, refers, composite, Bool.false_eq_true, if_false]

theorem finishes_ofSchema (location : Location) (schema : Option SchemaNode) :
    Finishes definitions (Task.ofSchema location schema) []
      (SchemaNode.steps.bodySteps definitions location schema) := by
  cases schema with
  | none =>
    intro rest taken
    rw [SchemaNode.steps.bodySteps, List.append_nil]
    exact .refl
  | some schema =>
    unfold Task.ofSchema SchemaNode.steps.bodySteps
    by_cases isBody : (location == .body) = true
    · simp only [isBody, if_true]
      exact finishes_body definitions schema
    · simp only [isBody, Bool.false_eq_true, if_false]
      intro rest taken
      rw [List.append_nil]
      exact .refl

theorem runs_parameter (parameter : SchemaNode) :
    Runs definitions (.start parameter) ⟨[], [], parameter.walked definitions⟩ := by
  unfold SchemaNode.walked
  cases place : parameter.place? with
  | none =>
    refine .step ?_ .refl
    simp only [State.start, advance, place]
  | some place' =>
    obtain ⟨location, path⟩ := place'
    have plain := finishes_ofSchema definitions location parameter.schema []
      (reach path parameter false)
    rw [List.append_nil] at plain
    unfold SchemaNode.steps
    cases isItems : parameter.items with
    | none =>
      refine .step ?_ plain
      simp only [State.start, advance, place, isItems, List.nil_append, List.append_nil]
    | some items =>
      by_cases isList : (location == .query && parameter.isArray) = true
      · refine .step ?_ (.refl)
        simp only [State.start, advance, place, isItems, isList, if_true, List.nil_append]
      · simp only [isList, Bool.false_eq_true, if_false]
        refine .step ?_ plain
        simp only [State.start, advance, place, isItems, isList, Bool.false_eq_true, if_false,
          List.nil_append, List.append_nil]

variable {definitions}

/-- A walk is deterministic, so that one run that ends is the only one. -/
theorem accessible_of_runs {earlier last : State} (runs : Runs definitions earlier last)
    (done : advance definitions last = none) :
    Acc (fun later earlier => advance definitions earlier = some later) earlier := by
  induction runs using Relation.ReflTransGen.head_induction_on with
  | refl =>
    refine .intro _ fun later step => ?_
    rw [done] at step
    contradiction
  | head step _ accessible =>
    refine .intro _ fun later step' => ?_
    rw [step] at step'
    obtain rfl := Option.some.inj step'
    exact accessible

end Walk
end WireContract

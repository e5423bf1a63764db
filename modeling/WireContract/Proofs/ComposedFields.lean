import WireContract.Proofs.LastWritten
import WireContract.Proofs.Optionality

/-!
Which nodes a composed definition takes its fields from. Gathering goes along paths that open no definition
twice, and yet it misses nothing: what a path leads to that comes back to a definition, the path from there on
leads to as well. Main statements: `leads_avoiding_iff`, by which a path is cut at the last visit of a
definition, `mem_parts_iff`, and `fields_of_composition`.
-/

namespace WireContract
namespace Model

/-- What a model takes fields from if it takes them from a node: the branches that are written out, and the
definitions that other branches refer to. Definitions that are named in `avoided` are left out. -/
inductive Adds (definitions : Definitions) (avoided : List String) : SchemaNode → SchemaNode → Prop
  | branch {node branch : SchemaNode} (isBranch : branch ∈ node.branches)
      (alone : branch.reference = none) : Adds definitions avoided node branch
  | definition {node branch target : SchemaNode} {reference name : String}
      (isBranch : branch ∈ node.branches) (refers : branch.reference = some reference)
      (resolves : definitions.Resolves reference name target) (fresh : name ∉ avoided) :
      Adds definitions avoided node target

/-- A set of nodes has the node of a definition and, with every node, its branches that are written out and the
definitions that its other branches refer to. -/
structure ComposedOf (definitions : Definitions) (node : SchemaNode) (among : SchemaNode → Prop) : Prop where
  own : among node
  branches : ∀ part, among part → ∀ branch ∈ part.branches, branch.reference = none → among branch
  definitions : ∀ part, among part → ∀ branch ∈ part.branches, ∀ reference,
    branch.reference = some reference → ∀ name target, definitions.Resolves reference name target →
      among target

variable {definitions : Definitions} {avoided names : List String} {name : String}
  {node target part : SchemaNode}

theorem Adds.allow (adds : Adds definitions (name :: avoided) node part) :
    Adds definitions avoided node part := by
  cases adds with
  | branch isBranch alone => exact .branch isBranch alone
  | definition isBranch refers resolves fresh =>
    exact .definition isBranch refers resolves fun isAvoided => fresh (.tail _ isAvoided)

/-- What a definition leads to it leads to without coming back to itself. -/
theorem leads_avoiding_iff (known : definitions.nodes.get? name = some target) :
    Relation.ReflTransGen (Adds definitions (name :: avoided)) target part ↔
      Relation.ReflTransGen (Adds definitions avoided) target part := by
  refine ⟨fun leads => leads.lift id fun _ _ => Adds.allow, fun leads => ?_⟩
  induction leads with
  | refl => exact .refl
  | tail _ adds ih =>
    cases adds with
    | branch isBranch alone => exact ih.tail (.branch isBranch alone)
    | @definition _ _ _ other isBranch refers resolves fresh =>
      by_cases same : other = name
      · -- the path is back where it started
        subst same
        obtain rfl := Option.some.inj (known.symm.trans resolves.2)
        exact .refl
      · refine ih.tail (.definition isBranch refers resolves ?_)
        rw [List.mem_cons, not_or]
        exact ⟨same, fresh⟩

theorem mem_parts_iff :
    part ∈ parts definitions names node ↔
      Relation.ReflTransGen (Adds definitions names) node part := by
  induction point : Walk.Point.mk names node using (gathers_wellFounded definitions).induction
      generalizing names node with
  | _ _ ih =>
    subst point
    rw [mem_parts_iff_gathers]
    constructor
    · rintro (rfl | ⟨next, gathers, isPart⟩)
      · exact .refl
      · have leads := (ih next gathers rfl).mp isPart
        cases gathers with
        | branch isBranch alone => exact .head (.branch isBranch alone) leads
        | definition isBranch refers resolves fresh =>
          exact .head (.definition isBranch refers resolves fresh) ((leads_avoiding_iff resolves.2).mp leads)
    · intro leads
      rcases Relation.ReflTransGen.cases_head leads with rfl | ⟨next, adds, rest⟩
      · exact .inl rfl
      · right
        cases adds with
        | branch isBranch alone =>
          have gathers : Gathers definitions ⟨names, _⟩ _ := .branch isBranch alone
          exact ⟨_, gathers, (ih _ gathers rfl).mpr rest⟩
        | definition isBranch refers resolves fresh =>
          have gathers := Gathers.definition isBranch refers resolves fresh
          exact ⟨_, gathers, (ih _ gathers rfl).mpr ((leads_avoiding_iff resolves.2).mpr rest)⟩

theorem mem_parts_of_known (known : definitions.nodes.get? name = some node) :
    part ∈ parts definitions [name] node ↔ Relation.ReflTransGen (Adds definitions []) node part := by
  rw [mem_parts_iff, leads_avoiding_iff known]

theorem composedOf_parts (known : definitions.nodes.get? name = some node) :
    ComposedOf definitions node (· ∈ parts definitions [name] node) where
  own := self_mem_parts definitions [name] node
  branches part isPart branch isBranch alone := by
    rw [mem_parts_of_known known] at isPart ⊢
    exact isPart.tail (.branch isBranch alone)
  definitions part isPart branch isBranch reference refers other target resolves := by
    rw [mem_parts_of_known known] at isPart ⊢
    exact isPart.tail (.definition isBranch refers resolves List.not_mem_nil)

theorem ComposedOf.of_mem_parts {among : SchemaNode → Prop}
    (composed : ComposedOf definitions node among) (isPart : part ∈ parts definitions names node) :
    among part := by
  rw [mem_parts_iff] at isPart
  induction isPart with
  | refl => exact composed.own
  | tail _ adds ih =>
    cases adds with
    | branch isBranch alone => exact composed.branches _ ih _ isBranch alone
    | definition isBranch refers resolves _ =>
      exact composed.definitions _ ih _ isBranch _ refers _ _ resolves

theorem wireNames_ofDefinition (compiler : Compiler) (name : String)
    (composite : node.isComposite = true) :
    (ofDefinition compiler name node).fields.map Field.wireName =
      (Dict.ofList ((parts compiler.definitions [name] node).flatMap SchemaNode.members)).keys := by
  rw [ofDefinition, if_pos composite, fields, List.map_map, Dict.keys]
  exact List.map_congr_left fun entry _ => (field_eq compiler _ entry.1 entry.2).1

theorem increasing_wireNames (compiler : Compiler) (name : String) (composite : node.isComposite = true) :
    ((ofDefinition compiler name node).fields.map Field.wireName).Pairwise (· < ·) := by
  rw [wireNames_ofDefinition compiler name composite, Dict.keys, List.pairwise_map]
  exact Dict.increasing _

theorem mem_wireNames_iff (compiler : Compiler) (name : String) (composite : node.isComposite = true)
    {key : String} :
    key ∈ (ofDefinition compiler name node).fields.map Field.wireName ↔
      ∃ part ∈ parts compiler.definitions [name] node, key ∈ part.members.map Prod.fst := by
  rw [wireNames_ofDefinition compiler name composite, Dict.mem_keys_ofList_iff, List.map_flatMap,
    List.mem_flatMap]

/-- Gathering the fields of a definition that is composed in whatever way, also of itself, ends, and the nodes
that it gets to are the least set that has the definition, the branches of its nodes that are written out and
the definitions that the others refer to. The names in data of the fields stand in order, each once, and are
the keys of the properties of these nodes; a field is optional unless one of the nodes lists its key. -/
theorem fields_of_composition (compiler : Compiler)
    (known : compiler.definitions.nodes.get? name = some node) (composite : node.isComposite = true) :
    (WellFounded fun later earlier => Gathers compiler.definitions earlier later) ∧
    ∃ among : SchemaNode → Prop,
      (∀ part, among part ↔
        ∃ within, Relation.ReflTransGen (Gathers compiler.definitions) ⟨[name], node⟩ ⟨within, part⟩) ∧
      ComposedOf compiler.definitions node among ∧
      (∀ other, ComposedOf compiler.definitions node other → ∀ part, among part → other part) ∧
      ∃ fields, ofDefinition compiler name node = .object name fields ∧
        (fields.map Field.wireName).Pairwise (· < ·) ∧
        (∀ key, key ∈ fields.map Field.wireName ↔
          ∃ part, among part ∧ key ∈ part.members.map Prod.fst) ∧
        ∀ field ∈ fields,
          field.optional = false ↔ ∃ part, among part ∧ field.wireName ∈ part.requiredFields := by
  refine ⟨gathers_wellFounded _, (· ∈ parts compiler.definitions [name] node),
    fun part => mem_parts_iff_reached, composedOf_parts known,
    fun other composed part isPart => composed.of_mem_parts isPart,
    (ofDefinition compiler name node).fields, ?_, increasing_wireNames compiler name composite,
    fun key => mem_wireNames_iff compiler name composite, ?_⟩
  · rw [ofDefinition, if_pos composite, fields]
  · intro field isField
    obtain ⟨_, _, optional⟩ := property?_of_mem_fields isField
    exact optional

end Model

namespace Pack

def referring (reference : String) : SchemaNode := { SchemaNode.empty with reference := some reference }

def text : SchemaNode := { SchemaNode.empty with type := some "string" }

def animal : SchemaNode :=
  { SchemaNode.empty with
    properties := some [("name", text)]
    allOf := some [referring "#/definitions/Animal"]
    required := some (.fields ["name"]) }

def pet : SchemaNode :=
  { SchemaNode.empty with
    properties := some [("owner", text)]
    allOf := some [referring "#/definitions/Animal", referring "#/definitions/Dog"]
    required := some (.fields ["bark"]) }

def dog : SchemaNode :=
  { SchemaNode.empty with
    properties := some [("bark", text)]
    allOf := some [referring "#/definitions/Animal", referring "#/definitions/Pet"] }

def definitions : Definitions :=
  ⟨Dict.ofList [("Animal", animal), ("Dog", dog), ("Pet", pet)], Definitions.defaultRoot⟩

def compiler : Compiler := ⟨definitions, (Lifecycle.default : Lifecycle Unit).folding⟩

theorem resolves_animal : definitions.Resolves "#/definitions/Animal" "Animal" animal := ⟨by decide, rfl⟩

theorem resolves_pet : definitions.Resolves "#/definitions/Pet" "Pet" pet := ⟨by decide, rfl⟩

theorem eq_of_resolves {reference name : String} {target : SchemaNode}
    (resolves : definitions.Resolves reference name target) :
    target = animal ∨ target = dog ∨ target = pet := by
  have isEntry : (name, target) ∈ [("Animal", animal), ("Dog", dog), ("Pet", pet)] :=
    Dict.get?_eq_some_iff.mp resolves.2
  simp only [List.mem_cons, Prod.mk.injEq, List.not_mem_nil, or_false] at isEntry
  exact isEntry.imp And.right (Or.imp And.right And.right)

theorem composedOf_three :
    Model.ComposedOf definitions dog fun part => part = animal ∨ part = dog ∨ part = pet where
  own := .inr (.inl rfl)
  branches part isPart branch isBranch alone := by
    have refers : ∃ reference, branch.reference = some reference := by
      rcases isPart with rfl | rfl | rfl
      all_goals
        simp only [SchemaNode.branches, animal, dog, pet, Option.getD_some, List.mem_cons,
          List.not_mem_nil, or_false] at isBranch
      · subst isBranch
        exact ⟨_, rfl⟩
      · rcases isBranch with rfl | rfl <;> exact ⟨_, rfl⟩
      · rcases isBranch with rfl | rfl <;> exact ⟨_, rfl⟩
    obtain ⟨reference, refers⟩ := refers
    cases alone.symm.trans refers
  definitions _ _ _ _ _ _ _ _ resolves := eq_of_resolves resolves

/-- A dog has the fields of all three, though they are composed of each other in a circle. -/
theorem dog_fields :
    definitions.nodes.get? "Dog" = some dog ∧ dog.isComposite = true ∧
      ∃ fields, Model.ofDefinition compiler "Dog" dog = .object "Dog" fields ∧
        (∀ key, key ∈ fields.map Field.wireName ↔ key = "name" ∨ key = "bark" ∨ key = "owner") ∧
        ∀ field ∈ fields, field.optional = false ↔ field.wireName = "name" ∨ field.wireName = "bark" := by
  have known : compiler.definitions.nodes.get? "Dog" = some dog := rfl
  obtain ⟨-, among, -, composed, least, fields, isModel, -, keys, optional⟩ :=
    Model.fields_of_composition compiler known rfl
  have isPet : among pet :=
    composed.definitions dog composed.own _ (.tail _ (.head _)) _ rfl "Pet" pet resolves_pet
  have isAnimal : among animal :=
    composed.definitions pet isPet _ (.head _) _ rfl "Animal" animal resolves_animal
  have parts (part : SchemaNode) : among part ↔ part = animal ∨ part = dog ∨ part = pet := by
    refine ⟨least _ composedOf_three part, ?_⟩
    rintro (rfl | rfl | rfl)
    · exact isAnimal
    · exact composed.own
    · exact isPet
  refine ⟨known, rfl, fields, isModel, ?_, ?_⟩
  · intro key
    rw [keys]
    simp [parts, SchemaNode.members, animal, dog, pet]
  · intro field isField
    have listed : animal.requiredFields = ["name"] ∧ dog.requiredFields = [] ∧
        pet.requiredFields = ["bark"] := ⟨rfl, rfl, rfl⟩
    rw [optional field isField]
    simp [parts, listed]

end Pack
end WireContract

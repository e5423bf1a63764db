import WireContract.Proofs.WalkConformance

namespace WireContract

namespace BodyPath

/-- The values that the segments of a path lead to, one segment after another from the body. -/
def arrive : List String → Json → List Json
  | [], body => [body]
  | segment :: rest, body => (through segment body).flatMap (arrive rest)

theorem arrive_append (front back : List String) (body : Json) :
    arrive (front ++ back) body = (arrive front body).flatMap (arrive back) := by
  induction front generalizing body with
  | nil => simp [arrive]
  | cons segment rest ih =>
    rw [List.cons_append, arrive, arrive, List.flatMap_assoc]
    congr 1
    funext part
    exact ih part

theorem arrive_singleton (segment : String) (body : Json) :
    arrive [segment] body = through segment body := by
  simp [arrive]

theorem isFalsy_of_get? {value member : Json} {key : String} (found : value.get? key = some member) :
    value.isFalsy = false := by
  cases value with
  | object members => rfl
  | _ => cases found

theorem through_cases {segment : String} {value part : Json} (isPart : part ∈ through segment value) :
    ∃ key member, value.get? key = some member ∧ (arrayKey? segment).getD segment = key ∧
      (member = part ∨ ∃ items, member = .array items ∧ part ∈ items) := by
  unfold through at isPart
  split at isPart
  · next key marked =>
    split at isPart
    · next items found => exact ⟨key, _, found, by rw [marked, Option.getD_some], .inr ⟨items, rfl, isPart⟩⟩
    · cases isPart
  · next unmarked =>
    exact ⟨segment, part, Option.mem_toList.mp isPart, by rw [unmarked, Option.getD_none], .inl rfl⟩

theorem isFalsy_of_mem_through {segment : String} {value part : Json}
    (isPart : part ∈ through segment value) : value.isFalsy = false := by
  obtain ⟨_, _, found, _⟩ := through_cases isPart
  exact isFalsy_of_get? found

theorem last_mem_resolve {front : List String} {segment : String} {body value : Json}
    (arrived : value ∈ arrive front body) (notFalsy : value.isFalsy = false) :
    last segment value ∈ resolve (front ++ [segment]) body := by
  induction front generalizing body with
  | nil =>
    obtain rfl := List.mem_singleton.mp arrived
    rw [List.nil_append, resolve_singleton, notFalsy]
    exact List.mem_singleton.mpr rfl
  | cons first rest ih =>
    rw [arrive] at arrived
    obtain ⟨part, isPart, arrived⟩ := List.mem_flatMap.mp arrived
    rw [List.cons_append, resolve_cons first (by simp), isFalsy_of_mem_through isPart]
    exact List.mem_flatMap.mpr ⟨part, isPart, ih arrived⟩

/-- Where all that a path resolves to passes, so does all that it arrives at, since arrays pass with their
items. -/
theorem pass_of_arrive (passes : Json → Prop)
    (ofItems : ∀ items, passes (.array items) → ∀ item ∈ items, passes item) {front : List String}
    {segment : String} (notWhole : segment ≠ wholeBody) {body : Json}
    (all : ∀ value ∈ resolve (front ++ [segment]) body, passes value) {value : Json}
    (arrived : value ∈ arrive (front ++ [segment]) body) : passes value := by
  rw [arrive_append] at arrived
  obtain ⟨holder, isHolder, arrived⟩ := List.mem_flatMap.mp arrived
  rw [arrive_singleton] at arrived
  obtain ⟨key, member, found, isKey, part⟩ := through_cases arrived
  have resolved := all _ (last_mem_resolve isHolder (isFalsy_of_get? found))
  have isMember : last segment holder = member := by simp [last, notWhole, isKey, found]
  rw [isMember] at resolved
  rcases part with rfl | ⟨items, rfl, isItem⟩
  · exact resolved
  · exact ofItems items resolved value isItem

end BodyPath

namespace Walk

/-- The walk of a body schema enters a node, and what it refers to or is composed of, together with a value
of the body: `names` are the definitions that are open there, the latest first, `referral?` is the
reference that is followed from there. -/
inductive Enters (definitions : Definitions) (schema : SchemaNode) (body : Json) :
    (names : List String) → (path : String) → (referral? : Option String) → SchemaNode → Json → Prop
  /-- the body itself -/
  | body : Enters definitions schema body [] "" schema.reference schema body
  /-- a reference to a definition that is not open -/
  | definition {names : List String} {path reference name : String} {node target : SchemaNode}
      {value : Json} (entered : Enters definitions schema body names path (some reference) node value)
      (resolves : definitions.Resolves reference name target) (fresh : name ∉ names) :
      Enters definitions schema body (name :: names) path target.reference target value
  /-- a branch that a node is composed of -/
  | branch {names : List String} {path : String} {node branch : SchemaNode} {value : Json}
      (entered : Enters definitions schema body names path none node value)
      (isBranch : branch ∈ node.branches) :
      Enters definitions schema body names path branch.reference branch value
  /-- a property, at the member of the value or at every item of one that is an array -/
  | property {names : List String} {path key : String} {node property : SchemaNode}
      {value part : Json} (entered : Enters definitions schema body names path none node value)
      (isMember : (key, property) ∈ node.members) (isKey : BodyPath.IsKey key)
      (isPart : part ∈ property.parts key value) :
      Enters definitions schema body names (property.slot (BodyPath.join path key)) property.referral?
        property.laid part

variable {definitions : Definitions}

theorem beyond_subset_branches {names : List String} {path : String} {branch : SchemaNode}
    {all : List SchemaNode} (isBranch : branch ∈ all) :
    beyond definitions names path branch.reference branch ⊆ branches definitions names path all := by
  induction all with
  | nil => cases isBranch
  | cons first rest ih =>
    have step : beyond definitions names path first.reference first ++
        branches definitions names path rest ⊆ branches definitions names path (first :: rest) := by
      cases refers : first.reference with
      | some reference =>
        rw [branches_referral definitions names refers]
        exact List.Subset.refl _
      | none =>
        rw [branches_inline definitions names refers, node_eq, refers]
        exact List.append_subset.mpr
          ⟨List.subset_append_of_subset_left _ (List.subset_append_right _ _),
            List.subset_append_right _ _⟩
    obtain ⟨ofFirst, ofRest⟩ := List.append_subset.mp step
    rcases List.mem_cons.mp isBranch with rfl | later
    · exact ofFirst
    · exact List.Subset.trans (ih later) ofRest

theorem property_subset_properties {names : List String} {path key : String} {property : SchemaNode}
    (required : List String) {all : List (String × SchemaNode)} (isMember : (key, property) ∈ all) :
    reach (property.slot (BodyPath.join path key)) property.laid (required.contains key) ++
        beyond definitions names (property.slot (BodyPath.join path key)) property.referral?
          property.laid ⊆
      properties definitions names path required all := by
  induction all with
  | nil => cases isMember
  | cons first rest ih =>
    obtain ⟨name, other⟩ := first
    rw [properties_cons]
    rcases List.mem_cons.mp isMember with same | later
    · obtain ⟨rfl, rfl⟩ := Prod.mk.inj same
      exact List.subset_append_left _ _
    · exact List.Subset.trans (ih later) (List.subset_append_right _ _)

theorem definition_subset_follow {names : List String} {path reference name : String}
    {target : SchemaNode} (resolves : definitions.Resolves reference name target)
    (fresh : name ∉ names) :
    reach path target false ++ beyond definitions (name :: names) path target.reference target ⊆
      follow definitions names path reference := by
  obtain ⟨_, resolved⟩ := Definitions.target?_of_resolves resolves
  rw [follow_fresh definitions names resolved (by simpa using fresh), node_eq]
  exact List.subset_cons_of_subset _ (List.subset_append_left _ _)

theorem beyond_subset_body (definitions : Definitions) (schema : SchemaNode) :
    beyond definitions [] "" schema.reference schema ⊆ Walk.body definitions schema := by
  rw [body_eq]
  split
  · exact List.Subset.refl _
  · next scalar =>
    -- without branches and properties there is nothing to enter
    simp only [SchemaNode.isComposite, Bool.or_eq_true, not_or, Option.not_isSome_iff_eq_none] at scalar
    obtain ⟨inline, noMembers, noBranches⟩ := scalar
    rw [beyond_leaf definitions [] "" inline (by rw [SchemaNode.branches, noBranches, Option.getD_none])
      (by rw [SchemaNode.members, noMembers, Option.getD_none])]
    exact List.nil_subset _

namespace Enters

variable {schema : SchemaNode} {body : Json} {names : List String} {path : String}
  {node : SchemaNode} {value : Json}

theorem subset_beyond_none :
    branches definitions names path node.branches ⊆ beyond definitions names path none node ∧
      properties definitions names path node.requiredFields node.members ⊆
        beyond definitions names path none node :=
  ⟨List.subset_append_left _ _, List.subset_append_right _ _⟩

theorem beyond_subset {referral? : Option String}
    (entered : Enters definitions schema body names path referral? node value) :
    beyond definitions names path referral? node ⊆ Walk.body definitions schema := by
  induction entered with
  | body => exact beyond_subset_body definitions schema
  | definition _ resolves fresh ih =>
    exact List.Subset.trans (List.append_subset.mp (definition_subset_follow resolves fresh)).2 ih
  | branch _ isBranch ih =>
    have ofBranches := List.Subset.trans subset_beyond_none.1 ih
    exact List.Subset.trans (beyond_subset_branches isBranch) ofBranches
  | property _ isMember _ _ ih =>
    have ofProperties := List.Subset.trans subset_beyond_none.2 ih
    exact List.Subset.trans (List.append_subset.mp (property_subset_properties _ isMember)).2 ofProperties

theorem property_reached (entered : Enters definitions schema body names path none node value)
    {key : String} {property : SchemaNode} (isMember : (key, property) ∈ node.members)
    (isKey : BodyPath.IsKey key) :
    .field (property.slot (BodyPath.join path key))
        (property.laid.keywords (node.requiredFields.contains key)) ∈
      Walk.body definitions schema := by
  have field : property.slot (BodyPath.join path key) ≠ "" := by
    rw [property.slot_join]
    exact BodyPath.join_ne_empty path (property.slot_ne_empty isKey)
  have ofProperties := List.Subset.trans subset_beyond_none.2 entered.beyond_subset
  have steps := List.Subset.trans (property_subset_properties node.requiredFields isMember) ofProperties
  exact steps (List.mem_append_left _ (mem_reach field _ _))

theorem definition_reached {reference name : String} {target : SchemaNode}
    (entered : Enters definitions schema body names path (some reference) node value)
    (resolves : definitions.Resolves reference name target) (fresh : name ∉ names)
    (field : path ≠ "") :
    .field path (target.keywords false) ∈ Walk.body definitions schema := by
  have steps := List.Subset.trans (definition_subset_follow resolves fresh) entered.beyond_subset
  exact steps (List.mem_append_left _ (mem_reach field _ _))

/-- The path of a node that is entered arrives at the value. -/
theorem arrives {referral? : Option String}
    (entered : Enters definitions schema body names path referral? node value) :
    value ∈ BodyPath.arrive (BodyPath.route path) body := by
  induction entered with
  | body => exact List.mem_singleton.mpr rfl
  | definition _ _ _ ih => exact ih
  | branch _ _ ih => exact ih
  | @property _ path key _ property value part _ _ isKey isPart ih =>
    rw [property.slot_join, BodyPath.route_join path (property.slot_ne_empty isKey)
      (property.slot_undotted isKey), BodyPath.arrive_append]
    refine List.mem_flatMap.mpr ⟨value, ih, ?_⟩
    rw [BodyPath.arrive_singleton, property.through_slot isKey]
    exact isPart

end Enters

end Walk
end WireContract

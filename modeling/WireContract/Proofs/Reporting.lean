import WireContract.Mapping.Converter
import WireContract.Proofs.Precedence

/-!
What a converter does besides converting. Its checks may use up validators and tell of failures, but they
change no data; where the outcomes of the checks are settled, exactly the failures of the value are told, in
order. Main statements: `returns_outbound` and `outbound_withHeader`.
-/

namespace WireContract

theorem Tables.outbound_of_scalar {κ : Type} {tables : Tables κ} {table : Option (Table κ)} {value : Json}
    (isScalar : ¬ value.isComposite = true) : tables.outbound table value = value := by
  cases value with
  | array | object => exact absurd rfl isScalar
  | null | bool | number | string => rfl

def Tables.memberFailures {κ : Type} (outcome : Json → RuleSet → Outcome) (property : Option (Property κ))
    (wireKey : String) (item : Json) (parts : List CheckFailure) : List CheckFailure :=
  if item.isComposite then parts
  else (property.bind Property.check).elim [] (failuresOf outcome wireKey item)

theorem Tables.failuresAt_cons {κ : Type} {tables : Tables κ} {outcome : Json → RuleSet → Outcome}
    {table : Option (Table κ)} {key : String} {item : Json} {rest : List (String × Json)} :
    tables.failuresAt outcome table ((key, item) :: rest) =
      (let property := table.bind fun table => table.property? key
       memberFailures outcome property ((property.map Property.wireName).getD key) item
        (tables.failures outcome (tables.tableOf property) item)) ++
        tables.failuresAt outcome table rest := by
  cases checked : (table.bind fun table => table.property? key).bind Property.check <;>
    cases item <;> simp [failuresAt, memberFailures, checked, Json.isComposite]

namespace Converter

variable {σ κ : Type} (converter : Converter σ) (tables : Tables κ)

theorem returns_outboundMember (property : Option (Property κ)) (wireKey : String) (item : Json)
    {parts : Chain σ Json} (returns : Chain.Returns parts (· = tables.outbound (tables.tableOf property) item)) :
    Chain.Returns (converter.outboundMember property wireKey item parts)
      (· = tables.outbound (tables.tableOf property) item) := by
  rw [outboundMember]
  split
  · exact returns
  · next isScalar =>
    refine Chain.returns_bind (Chain.returns_trivial _) fun _ _ => ?_
    exact Chain.returns_pure (Tables.outbound_of_scalar isScalar).symm

mutual

theorem returns_outbound (table : Option (Table κ)) : (value : Json) →
    Chain.Returns (converter.outbound tables table value) (· = tables.outbound table value)
  | .array items => by
    rw [outbound, Tables.outbound]
    refine Chain.returns_bind (returns_outboundItems table items) fun _ same => ?_
    exact Chain.returns_pure (congrArg Json.array same)
  | .object members => by
    rw [outbound, Tables.outbound]
    refine Chain.returns_bind (returns_outboundMembers table members) fun _ same => ?_
    exact Chain.returns_pure (congrArg (fun pairs => Json.object (Dict.ofList pairs).entries) same)
  | .null | .bool _ | .number _ | .string _ => Chain.returns_pure rfl

theorem returns_outboundItems (table : Option (Table κ)) : (items : List Json) →
    Chain.Returns (converter.outboundItems tables table items) (· = tables.outboundItems table items)
  | [] => Chain.returns_pure rfl
  | item :: rest => by
    rw [outboundItems, Tables.outboundItems]
    refine Chain.returns_bind (returns_outbound table item) fun _ sameItem => ?_
    refine Chain.returns_bind (returns_outboundItems table rest) fun _ sameRest => ?_
    exact Chain.returns_pure (sameItem ▸ sameRest ▸ rfl)

theorem returns_outboundMembers (table : Option (Table κ)) : (members : List (String × Json)) →
    Chain.Returns (converter.outboundMembers tables table members)
      (· = tables.outboundMembers table members)
  | [] => Chain.returns_pure rfl
  | (key, item) :: rest => by
    rw [outboundMembers, Tables.outboundMembers]
    refine Chain.returns_bind (converter.returns_outboundMember tables _ _ item
      (returns_outbound _ item)) fun _ sameItem => ?_
    refine Chain.returns_bind (returns_outboundMembers table rest) fun _ sameRest => ?_
    exact Chain.returns_pure (sameItem ▸ sameRest ▸ rfl)

end

/-- What the checks of a converter come to does not depend on what was checked before. -/
def Settled (converter : Converter σ) (outcome : Json → RuleSet → Outcome) : Prop :=
  ∀ value rules,
    Lifecycle.check converter.validators converter.now value rules none = pure (outcome value rules)

variable {converter} {outcome : Json → RuleSet → Outcome}

theorem Settled.runCheck_eq (settled : converter.Settled outcome) (field : String) (value : Json)
    (check : ValueCheck) :
    converter.runCheck field value check =
      (Tables.failuresOf outcome field value check).forM converter.report := by
  cases check with
  | predicate holds => cases isTrue : holds value <;> simp [runCheck, Tables.failuresOf, isTrue]
  | rules rules =>
    simp only [runCheck, Tables.failuresOf, settled _ _, pure_bind, List.forM_eq_forM]
    induction rules.keys with
    | nil => rfl
    | cons rule rest ih =>
      rw [List.forM_cons, ih, List.filter_cons]
      split
      · rw [List.map_cons, List.forM_cons]
      · rw [pure_bind]

theorem Settled.outboundMember_eq (settled : converter.Settled outcome) (property : Option (Property κ))
    (wireKey : String) (item : Json) {parts : Chain σ Json} {told : List CheckFailure}
    (isParts : parts = do
      told.forM converter.report
      return tables.outbound (tables.tableOf property) item) :
    converter.outboundMember property wireKey item parts = do
      (Tables.memberFailures outcome property wireKey item told).forM converter.report
      return tables.outbound (tables.tableOf property) item := by
  rw [outboundMember, Tables.memberFailures]
  split
  · exact isParts
  · next isScalar =>
    rw [Tables.outbound_of_scalar isScalar]
    cases property.bind Property.check with
    | none => rfl
    | some check =>
      rw [Option.elim_some, ← settled.runCheck_eq wireKey item check]
      rfl

mutual

/-- The failures of a value are told in order, and the data are those of the conversion without checks. -/
theorem Settled.outbound_eq (settled : converter.Settled outcome) (table : Option (Table κ)) :
    (value : Json) →
    converter.outbound tables table value = do
      (tables.failures outcome table value).forM converter.report
      return tables.outbound table value
  | .array items => by
    rw [outbound, Tables.outbound, Tables.failures, settled.outboundItems_eq table items, bind_assoc]
    rfl
  | .object members => by
    rw [outbound, Tables.outbound, Tables.failures, settled.outboundMembers_eq table members, bind_assoc]
    rfl
  | .null | .bool _ | .number _ | .string _ => rfl

theorem Settled.outboundItems_eq (settled : converter.Settled outcome) (table : Option (Table κ)) :
    (items : List Json) →
    converter.outboundItems tables table items = do
      (tables.failuresIn outcome table items).forM converter.report
      return tables.outboundItems table items
  | [] => rfl
  | item :: rest => by
    rw [outboundItems, Tables.outboundItems, Tables.failuresIn, settled.outbound_eq table item,
      settled.outboundItems_eq table rest]
    simp only [List.forM_eq_forM, List.forM_append, bind_assoc, pure_bind]

theorem Settled.outboundMembers_eq (settled : converter.Settled outcome) (table : Option (Table κ)) :
    (members : List (String × Json)) →
    converter.outboundMembers tables table members = do
      (tables.failuresAt outcome table members).forM converter.report
      return tables.outboundMembers table members
  | [] => rfl
  | (key, item) :: rest => by
    rw [outboundMembers, Tables.outboundMembers, Tables.failuresAt_cons,
      settled.outboundMembers_eq table rest]
    simp only [settled.outboundMember_eq _ _ _ _ (settled.outbound_eq _ item)]
    simp only [List.forM_eq_forM, List.forM_append, bind_assoc, pure_bind]

end

theorem outbound_withHeader (header : String) (now : Instant) (report : CheckFailure → Chain σ Unit)
    (table : Option (Table κ)) (value : Json) :
    outbound ⟨(Lifecycle.withHeader header).validators.subscriptions, now, report⟩ tables table value = do
      (tables.failures (fun value rules => (Lifecycle.withHeader header).outcome now value rules none)
        table value).forM report
      return tables.outbound table value := by
  have settled : Settled ⟨(Lifecycle.withHeader header).validators.subscriptions, now, report⟩
      fun value rules => (Lifecycle.withHeader header).outcome now value rules none := by
    intro value rules
    simp only [Lifecycle.subscriptions_withHeader, Lifecycle.outcome_withHeader]
    exact Lifecycle.check_builtIn header now value rules none
  exact settled.outbound_eq tables table value

end Converter
end WireContract

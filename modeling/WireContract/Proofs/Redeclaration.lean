import Mathlib.Data.List.Induction
import WireContract.Proofs.WireNames

/-!
Tables whose properties are declared more than once, in any order. The properties are the last declarations,
and a key in data leads to the last declaration under it as long as that one is not replaced; once it is, the
key stands for itself, though another property may still be declared under it. Main statement:
`declarations_kept`.
-/

namespace WireContract
namespace Table

variable {κ : Type} {table : Table κ} {declarations : List (Property κ)} {property : Property κ}

def last? (declarations : List (Property κ)) (name : String) : Option (Property κ) :=
  declarations.reverse.find? fun property => property.name == name

/-- The last declaration under a key in data holds the key until its property is declared again. -/
def Holds (declarations : List (Property κ)) (key : String) (property : Property κ) : Prop :=
  ∃ front back, declarations = front ++ property :: back ∧ property.wireName = key ∧
    ∀ later ∈ back, later.wireName ≠ key ∧ later.name ≠ property.name

/-- A key under which properties are declared stands for one of them. -/
def LeadsBack (table : Table κ) (key : String) : Prop :=
  (∃ property ∈ table.properties, property.wireName = key) →
    ∃ property ∈ table.properties, property.wireName = key ∧ property.name = table.propertyFor key

theorem last?_concat (declarations : List (Property κ)) (property : Property κ) (name : String) :
    last? (declarations ++ [property]) name =
      if property.name = name then some property else last? declarations name := by
  rw [last?, List.reverse_append, List.reverse_singleton, List.singleton_append, List.find?_cons]
  by_cases same : property.name = name
  · simp [same]
  · have differs : (property.name == name) = false := by simpa using same
    rw [differs, if_neg same, last?]

theorem find?_place (property : Property κ) (properties : List (Property κ)) (name : String) :
    (place property properties).find? (fun other => other.name == name) =
      if property.name = name then some property
      else properties.find? fun other => other.name == name := by
  induction properties with
  | nil => by_cases same : property.name = name <;> simp [place, same]
  | cons first rest ih =>
    rw [place]
    by_cases replaced : first.name = property.name
    · rw [if_pos (beq_iff_eq.mpr replaced)]
      by_cases same : property.name = name
      · simp [same]
      · simp [replaced, same]
    · rw [if_neg (by simpa using replaced), List.find?_cons, ih, List.find?_cons]
      by_cases here : first.name = name
      · have differs : property.name ≠ name := fun same => replaced (here.trans same.symm)
        simp [here, differs]
      · simp [beq_eq_false_iff_ne.mpr here]

theorem get?_byWire_declare (table : Table κ) (property : Property κ) (key : String) :
    (table.declare property).byWire.get? key =
      if key = property.wireName then some property.name
      else (table.byWire.get? key).filter fun name => name != property.name := by
  rw [declare, Dict.get?_insert, Dict.get?_filter]

theorem holds_concat_iff {last : Property κ} {key : String} :
    Holds (declarations ++ [last]) key property ↔
      if key = last.wireName then property = last
      else Holds declarations key property ∧ property.name ≠ last.name := by
  constructor
  · rintro ⟨front, back, split, isKey, kept⟩
    rcases List.eq_nil_or_concat' back with rfl | ⟨back, other, rfl⟩
    · obtain ⟨_, same⟩ := List.append_inj' split rfl
      obtain rfl := List.singleton_inj.mp same
      rw [if_pos isKey.symm]
    · have moved : declarations ++ [last] = (front ++ property :: back) ++ [other] := by
        rw [split, List.append_assoc, List.cons_append]
      obtain ⟨rfl, same⟩ := List.append_inj' moved rfl
      obtain rfl := List.singleton_inj.mp same
      obtain ⟨otherKey, otherName⟩ := kept last (List.mem_append_right _ (.head _))
      rw [if_neg otherKey.symm]
      exact ⟨⟨front, back, rfl, isKey, fun later member => kept later (List.mem_append_left _ member)⟩,
        otherName.symm⟩
  · split
    · rintro rfl
      exact ⟨declarations, [], rfl, by rw [‹key = _›], fun later member => absurd member List.not_mem_nil⟩
    · next otherKey =>
      rintro ⟨⟨front, back, rfl, isKey, kept⟩, otherName⟩
      refine ⟨front, back ++ [last], by rw [List.append_assoc, List.cons_append], isKey, ?_⟩
      intro later member
      rcases List.mem_append.mp member with earlier | alone
      · exact kept later earlier
      · rw [List.mem_singleton.mp alone]
        exact ⟨Ne.symm otherKey, otherName.symm⟩

theorem Holds.wireName_eq {key : String} (holds : Holds declarations key property) :
    property.wireName = key := by
  obtain ⟨_, _, _, isKey, _⟩ := holds
  exact isKey

theorem Holds.last?_eq {key : String} (holds : Holds declarations key property) :
    last? declarations property.name = some property := by
  obtain ⟨front, back, rfl, _, kept⟩ := holds
  have absent : back.reverse.find? (fun other => other.name == property.name) = none := by
    rw [List.find?_eq_none]
    intro later member
    simpa using (kept later (List.mem_reverse.mp member)).2
  rw [last?, List.reverse_append, List.reverse_cons, List.append_assoc, List.find?_append, absent]
  simp

/-- A table is what its declarations come to: the names in the order in which they came up, each with its
last declaration, and the keys that are held. -/
structure Reflects (table : Table κ) (declarations : List (Property κ)) : Prop where
  names : table.properties.map Property.name = (declarations.map Property.name).eraseDups
  lookup : ∀ name, table.property? name = last? declarations name
  index : ∀ key name, table.byWire.get? key = some name ↔
    ∃ property, Holds declarations key property ∧ property.name = name

theorem reflects_new (title : String) : (new title : Table κ).Reflects [] where
  names := rfl
  lookup := fun _ => rfl
  index := by
    intro key name
    constructor
    · intro found
      cases found
    · rintro ⟨property, ⟨front, back, split, _⟩, _⟩
      cases front <;> cases split

theorem Reflects.declare (reflects : table.Reflects declarations) (property : Property κ) :
    (table.declare property).Reflects (declarations ++ [property]) where
  names := by
    have known : property.name ∈ table.properties.map Property.name ↔
        property.name ∈ declarations.map Property.name := by
      rw [reflects.names, List.mem_eraseDups]
    show (place property table.properties).map Property.name = _
    rw [names_place, List.map_append, List.eraseDups_append, ← reflects.names]
    generalize declarations.map Property.name = before at known
    split
    · next member => simp [List.removeAll, known.mp member]
    · next isNew => simp [List.removeAll, List.eraseDups_cons, mt known.mpr isNew]
  lookup := by
    intro name
    show (place property table.properties).find? _ = _
    rw [find?_place, last?_concat, ← reflects.lookup, property?]
  index := by
    intro key name
    rw [get?_byWire_declare]
    simp only [holds_concat_iff]
    split
    · simp
    · rw [Option.filter_eq_some_iff, reflects.index]
      constructor
      · rintro ⟨⟨other, holds, rfl⟩, differs⟩
        exact ⟨other, ⟨holds, by simpa using differs⟩, rfl⟩
      · rintro ⟨other, ⟨holds, differs⟩, rfl⟩
        exact ⟨⟨other, holds, rfl⟩, by simpa using differs⟩

theorem reflects_ofProperties (title : String) (declarations : List (Property κ)) :
    (ofProperties title declarations).Reflects declarations := by
  induction declarations using List.reverseRecOn with
  | nil => exact reflects_new title
  | append_singleton declarations property ih =>
    rw [ofProperties, List.foldl_append]
    exact ih.declare property

section Declared

variable (title : String) (declarations : List (Property κ))

theorem last?_of_mem (member : property ∈ (ofProperties title declarations).properties) :
    last? declarations property.name = some property := by
  rw [← (reflects_ofProperties title declarations).lookup,
    property?_name (nodup_names_ofProperties title declarations) member]

variable {declarations}

theorem Holds.mem_properties {key : String} (holds : Holds declarations key property) :
    property ∈ (ofProperties title declarations).properties := by
  have found : (ofProperties title declarations).property? property.name = some property := by
    rw [(reflects_ofProperties title declarations).lookup, holds.last?_eq]
  exact (mem_of_property? found).1

theorem Holds.propertyFor_eq {key : String} (holds : Holds declarations key property) :
    (ofProperties title declarations).propertyFor key = property.name := by
  have indexed := ((reflects_ofProperties title declarations).index key property.name).mpr
    ⟨property, holds, rfl⟩
  rw [propertyFor, indexed, Option.getD_some]

theorem propertyFor_of_free {key : String} (free : ¬ ∃ property, Holds declarations key property) :
    (ofProperties title declarations).propertyFor key = key := by
  cases found : (ofProperties title declarations).byWire.get? key with
  | none => rw [propertyFor, found, Option.getD_none]
  | some name =>
    obtain ⟨property, holds, _⟩ :=
      ((reflects_ofProperties title declarations).index key name).mp found
    exact absurd ⟨property, holds⟩ free

theorem Holds.leadsBack {key : String} (holds : Holds declarations key property) :
    (ofProperties title declarations).LeadsBack key := fun _ =>
  ⟨property, holds.mem_properties title, holds.wireName_eq, (holds.propertyFor_eq title).symm⟩

/-- A key leads back unless it lost its property to a later declaration; then it may still happen to be the
name of a property that is declared under it. -/
theorem leadsBack_iff (key : String) :
    let table : Table κ := ofProperties title declarations
    table.LeadsBack key ↔
      (∀ property ∈ table.properties, property.wireName ≠ key) ∨
        (∃ property, Holds declarations key property) ∨
        ∃ property ∈ table.properties, property.wireName = key ∧ property.name = key := by
  intro table
  by_cases held : ∃ property, Holds declarations key property
  · obtain ⟨property, holds⟩ := held
    exact iff_of_true (holds.leadsBack title) (.inr (.inl ⟨property, holds⟩))
  have stays : table.propertyFor key = key := propertyFor_of_free title held
  constructor
  · intro leads
    by_cases declared : ∃ property ∈ table.properties, property.wireName = key
    · obtain ⟨property, member, isKey, isName⟩ := leads declared
      exact .inr (.inr ⟨property, member, isKey, isName.trans stays⟩)
    · exact .inl fun property member isKey => declared ⟨property, member, isKey⟩
  · rintro (undeclared | holds | ⟨property, member, isKey, isName⟩) ⟨other, isOther, same⟩
    · exact absurd same (undeclared other isOther)
    · exact absurd holds held
    · exact ⟨property, member, isKey, isName.trans stays.symm⟩

theorem holds_of_alone {key : String}
    (alone : ∀ property ∈ declarations, ∀ other ∈ declarations,
      property.wireName = key → other.wireName = key → property.name = other.name)
    (member : property ∈ (ofProperties title declarations).properties) (isKey : property.wireName = key) :
    Holds declarations key property := by
  have last := last?_of_mem title declarations member
  rw [last?, List.find?_eq_some_iff_append] at last
  obtain ⟨_, back, front, split, kept⟩ := last
  have listed : declarations = front.reverse ++ property :: back.reverse := by
    rw [← List.reverse_reverse declarations, split, List.reverse_append, List.reverse_cons,
      List.append_assoc, List.singleton_append]
  refine ⟨front.reverse, back.reverse, listed, isKey, fun later isLater => ?_⟩
  have otherName : later.name ≠ property.name := by
    simpa using kept later (List.mem_reverse.mp isLater)
  refine ⟨fun same => otherName ?_, otherName⟩
  have isDeclared : later ∈ declarations := listed ▸ List.mem_append_right _ (.tail _ isLater)
  have itself : property ∈ declarations := listed ▸ List.mem_append_right _ (.head _)
  exact alone later isDeclared property itself same isKey

end Declared

/-- However often properties are declared again, a table has one property of each name, in the order of the
first declarations and each as in its last one, and every key that none of them has stands for itself. A key
stands for the property that holds it, and for itself once that is declared again under another key. So a key
that some property has leads back to one exactly if it is held or is itself the name of such a property;
that is always so if no two properties are ever declared under one key. -/
theorem declarations_kept (title : String) (declarations : List (Property κ)) :
    let table : Table κ := ofProperties title declarations
    (table.properties.map Property.name = (declarations.map Property.name).eraseDups ∧
      (table.properties.map Property.name).Nodup ∧
      ∀ property ∈ table.properties, last? declarations property.name = some property) ∧
    (∀ key, (∀ property ∈ table.properties, property.wireName ≠ key) → table.propertyFor key = key) ∧
    (∀ key property, Holds declarations key property →
      property ∈ table.properties ∧ property.wireName = key ∧ table.propertyFor key = property.name) ∧
    (∀ key, (¬ ∃ property, Holds declarations key property) → table.propertyFor key = key) ∧
    (∀ key, table.LeadsBack key ↔
      (∀ property ∈ table.properties, property.wireName ≠ key) ∨
        (∃ property, Holds declarations key property) ∨
        ∃ property ∈ table.properties, property.wireName = key ∧ property.name = key) ∧
    ((∀ property ∈ declarations, ∀ other ∈ declarations,
        property.wireName = other.wireName → property.name = other.name) →
      ∀ key, table.LeadsBack key) := by
  intro table
  refine ⟨⟨?_, ?_, ?_⟩, ?_, ?_, ?_, ?_, ?_⟩
  · exact (reflects_ofProperties title declarations).names
  · exact nodup_names_ofProperties title declarations
  · exact fun property member => last?_of_mem title declarations member
  · intro key undeclared
    refine propertyFor_of_free title ?_
    rintro ⟨property, holds⟩
    exact undeclared property (holds.mem_properties title) holds.wireName_eq
  · intro key property holds
    exact ⟨holds.mem_properties title, holds.wireName_eq, holds.propertyFor_eq title⟩
  · exact fun key free => propertyFor_of_free title free
  · exact leadsBack_iff title
  · intro apart key declared
    obtain ⟨property, member, isKey⟩ := declared
    have holds : Holds declarations key property := by
      refine holds_of_alone title (fun first isFirst second isSecond firstKey secondKey => ?_)
        member isKey
      exact apart first isFirst second isSecond (firstKey.trans secondKey.symm)
    exact holds.leadsBack title ⟨property, member, isKey⟩

end Table

namespace Contacts

def phone : Property Unit := { Property.new "phone" with rename := some "tel" }

def mobile (key : String) : Property Unit := { Property.new "mobile" with rename := some key }

def declarations : List (Property Unit) := [phone, mobile "tel", mobile "cell"]

/-- The phone is declared under a key that no longer leads to it. -/
theorem phone_lost :
    let table := Table.ofProperties "Contact" declarations
    phone ∈ table.properties ∧ phone.wireName = "tel" ∧ table.propertyFor "tel" = "tel" ∧
      ¬ ∀ key, table.LeadsBack key := by
  intro table
  have listed : table.properties = [phone, mobile "cell"] := rfl
  have stays : table.propertyFor "tel" = "tel" := rfl
  have member : phone ∈ table.properties := listed ▸ .head _
  refine ⟨member, rfl, stays, fun leads => ?_⟩
  obtain ⟨property, isProperty, isKey, isName⟩ := leads "tel" ⟨phone, member, rfl⟩
  rw [listed] at isProperty
  rw [stays] at isName
  rcases List.mem_cons.mp isProperty with rfl | isMobile
  · exact absurd isName (by decide)
  · obtain rfl := List.mem_singleton.mp isMobile
    exact absurd isKey (by decide)

end Contacts
end WireContract

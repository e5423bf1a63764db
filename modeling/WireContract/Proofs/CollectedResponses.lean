import Mathlib
import WireContract.Project.Load
import WireContract.Proofs.LastWritten
import WireContract.Proofs.NumberTexts

/-!
Responses that are collected from a table which keeps no order. A status code and a text that spells it are
two keys of the table but one key of the responses, so that one of the two is lost, and which one is a
matter of the order. Main statement: `collected_alike_iff`.
-/

namespace WireContract

namespace StatusKey

/-- Of two keys with one text that are told apart, one is a status code and the other spells it. -/
theorem name_eq_iff {key other : StatusKey} :
    key.name = other.name ↔
      key = other ∨ ∃ code, key = .code code ∧ other = .text (toString code) ∨
        other = .code code ∧ key = .text (toString code) := by
  have codes {m n : Nat} : m.repr = n.repr ↔ m = n := ⟨Debug.natural_injective, congrArg _⟩
  cases key <;> cases other <;> simp [name, codes, eq_comm]

end StatusKey

namespace Responses

variable {pairs entries order : List (StatusKey × SchemaNode)}

def held : List (StatusKey × SchemaNode) → List (StatusKey × SchemaNode)
  | [] => []
  | pair :: rest => if pair.1 ∈ rest.map Prod.fst then held rest else pair :: held rest

/-- A status code and a text that spells it are both keys. -/
def Doubles (entries : List (StatusKey × SchemaNode)) (code : Nat) : Prop :=
  .code code ∈ entries.map Prod.fst ∧ .text (toString code) ∈ entries.map Prod.fst

def named (entries : List (StatusKey × SchemaNode)) : List (String × SchemaNode) :=
  entries.map fun entry => (entry.1.name, entry.2)

theorem ofList_eq (entries : List (StatusKey × SchemaNode)) : ofList entries = Dict.ofList (named entries) :=
  rfl

theorem get?_ofList_cons (entry : StatusKey × SchemaNode) (rest : List (StatusKey × SchemaNode))
    (name : String) :
    (ofList (entry :: rest)).get? name =
      ((ofList rest).get? name).or (if name = entry.1.name then some entry.2 else none) :=
  Dict.get?_ofList_cons _ _ _

theorem mem_named {entry : StatusKey × SchemaNode} (member : entry ∈ entries) :
    (entry.1.name, entry.2) ∈ named entries :=
  List.mem_map_of_mem member

theorem mem_names {key : StatusKey} (member : key ∈ entries.map Prod.fst) :
    key.name ∈ (named entries).map Prod.fst := by
  obtain ⟨entry, isEntry, rfl⟩ := List.mem_map.mp member
  exact List.mem_map_of_mem (mem_named isEntry)

theorem mem_keys_held {key : StatusKey} : key ∈ (held pairs).map Prod.fst ↔ key ∈ pairs.map Prod.fst := by
  induction pairs with
  | nil => rfl
  | cons pair rest ih =>
    rw [held]
    split
    · next again =>
      rw [ih, List.map_cons, List.mem_cons]
      exact ⟨.inr, fun either => either.elim (fun same => same ▸ again) id⟩
    · rw [List.map_cons, List.mem_cons, ih, List.map_cons, List.mem_cons]

theorem nodup_keys_held (pairs : List (StatusKey × SchemaNode)) : ((held pairs).map Prod.fst).Nodup := by
  induction pairs with
  | nil => exact .nil
  | cons pair rest ih =>
    rw [held]
    split
    · exact ih
    · next last => exact List.nodup_cons.mpr ⟨mt mem_keys_held.mp last, ih⟩

theorem held_eq_self_iff : held pairs = pairs ↔ (pairs.map Prod.fst).Nodup := by
  refine ⟨fun same => same ▸ nodup_keys_held pairs, fun distinct => ?_⟩
  induction pairs with
  | nil => rfl
  | cons pair rest ih =>
    obtain ⟨isNew, others⟩ := List.nodup_cons.mp distinct
    rw [held, if_neg isNew, ih others]

theorem ofList_held (pairs : List (StatusKey × SchemaNode)) : ofList (held pairs) = ofList pairs := by
  induction pairs with
  | nil => rfl
  | cons pair rest ih =>
    apply Dict.ext_get?
    intro name
    rw [held]
    split
    · next again =>
      -- the pair is written over, since its key comes again
      obtain ⟨node, found⟩ := Dict.mem_keys_iff.mp (Dict.mem_keys_ofList_iff.mpr (mem_names again))
      rw [ih, get?_ofList_cons]
      by_cases here : name = pair.1.name
      · rw [here, ofList_eq, found]
        rfl
      · rw [if_neg here, Option.or_none]
    · rw [get?_ofList_cons, get?_ofList_cons, ih]

section Distinct

variable (distinct : (entries.map Prod.fst).Nodup)

theorem exists_order_of_mem {entry : StatusKey × SchemaNode} (member : entry ∈ entries) :
    ∃ order, order.Perm entries ∧ (ofList order).get? entry.1.name = some entry.2 := by
  obtain ⟨front, back, rfl⟩ := List.append_of_mem member
  refine ⟨front ++ back ++ [entry], (List.perm_append_singleton _ _).trans List.perm_middle.symm, ?_⟩
  rw [ofList_eq, named, List.map_append]
  exact Dict.get?_ofList_of_last List.not_mem_nil

include distinct

theorem node_eq_of_name_eq
    (alike : ∀ code node other, (.code code, node) ∈ entries → (.text (toString code), other) ∈ entries →
      node = other)
    {entry other : StatusKey × SchemaNode} (member : entry ∈ entries) (otherMember : other ∈ entries)
    (same : entry.1.name = other.1.name) : entry.2 = other.2 := by
  obtain ⟨key, node⟩ := entry
  obtain ⟨otherKey, otherNode⟩ := other
  rcases StatusKey.name_eq_iff.mp same with sameKey | ⟨code, ⟨isCode, isText⟩ | ⟨isCode, isText⟩⟩
  · exact congrArg Prod.snd (List.inj_on_of_nodup_map distinct member otherMember sameKey)
  · exact alike code node otherNode (isCode ▸ member) (isText ▸ otherMember)
  · exact (alike code otherNode node (isCode ▸ otherMember) (isText ▸ member)).symm

/-- All orders come to the same responses exactly if under a code and its text stands one node. -/
theorem ofList_eq_iff :
    (∀ order other, order.Perm entries → other.Perm entries → ofList order = ofList other) ↔
      ∀ code node other, (.code code, node) ∈ entries → (.text (toString code), other) ∈ entries →
        node = other := by
  constructor
  · intro anyOrder code node other isCode isText
    obtain ⟨order, isOrder, found⟩ := exists_order_of_mem isCode
    obtain ⟨otherOrder, isOther, otherFound⟩ := exists_order_of_mem isText
    have sameName : StatusKey.name (.text (toString code)) = StatusKey.name (.code code) := rfl
    rw [anyOrder order otherOrder isOrder isOther, ← sameName, otherFound] at found
    exact (Option.some.inj found).symm
  · intro alike order other isOrder isOther
    have collected {order : List (StatusKey × SchemaNode)} (isOrder : order.Perm entries)
        {entry : StatusKey × SchemaNode} (member : entry ∈ entries) :
        (ofList order).get? entry.1.name = some entry.2 := by
      refine Dict.get?_ofList_of_agree (mem_names (List.mem_map_of_mem (isOrder.mem_iff.mpr member))) ?_
      intro node written
      obtain ⟨found, isFound, same⟩ := List.mem_map.mp written
      obtain ⟨sameName, rfl⟩ := Prod.mk.inj same
      exact node_eq_of_name_eq distinct alike (isOrder.mem_iff.mp isFound) member sameName
    apply Dict.ext_get?
    intro name
    by_cases written : name ∈ (named entries).map Prod.fst
    · obtain ⟨_, isPair, rfl⟩ := List.mem_map.mp written
      obtain ⟨entry, member, rfl⟩ := List.mem_map.mp isPair
      rw [collected isOrder member, collected isOther member]
    · have absent {order : List (StatusKey × SchemaNode)} (isOrder : order.Perm entries) :
          (ofList order).get? name = none :=
        Dict.get?_ofList_eq_none_iff.mpr
          (mt ((isOrder.map _).map Prod.fst).mem_iff.mp written)
      rw [absent isOrder, absent isOther]

theorem nodup_names_iff :
    ((named entries).map Prod.fst).Nodup ↔ ∀ code, ¬ Doubles entries code := by
  have names : (named entries).map Prod.fst = (entries.map Prod.fst).map StatusKey.name := by
    rw [named, List.map_map, List.map_map]
    rfl
  rw [names]
  constructor
  · intro nodup code ⟨isCode, isText⟩
    have same := List.inj_on_of_nodup_map nodup isCode isText rfl
    cases same
  · intro single
    refine List.Nodup.map_on (fun key isKey other isOther same => ?_) distinct
    rcases StatusKey.name_eq_iff.mp same with sameKey | ⟨code, ⟨rfl, rfl⟩ | ⟨rfl, rfl⟩⟩
    · exact sameKey
    · exact absurd ⟨isKey, isOther⟩ (single code)
    · exact absurd ⟨isOther, isKey⟩ (single code)

theorem perm_ofList_iff (isOrder : order.Perm entries) :
    (ofList order).entries.Perm (named order) ↔ ∀ code, ¬ Doubles entries code := by
  have names := ((isOrder.map fun entry => (entry.1.name, entry.2)).map Prod.fst).nodup_iff
  rw [← nodup_names_iff distinct]
  constructor
  · intro all
    exact names.mp ((all.map Prod.fst).nodup_iff.mp (Dict.nodup_keys (ofList order).increasing))
  · intro nodup
    exact Dict.perm_entries_ofList (names.mpr nodup)

end Distinct

/-- The table that pairs are written into has distinct keys and is all of the pairs if these have distinct
keys, and what is read is what is collected from it in one order. All orders come to the same responses
exactly if each code that is a key together with its text stands for the same node there; in any order all
entries become responses exactly if no code is a key together with its text. -/
theorem collected_alike_iff (pairs : List (StatusKey × SchemaNode)) :
    let entries := held pairs
    ((entries.map Prod.fst).Nodup ∧ (entries = pairs ↔ (pairs.map Prod.fst).Nodup) ∧
      ofList entries = ofList pairs) ∧
    ((∀ order other, order.Perm entries → other.Perm entries → ofList order = ofList other) ↔
      ∀ code node other, (.code code, node) ∈ entries → (.text (toString code), other) ∈ entries →
        node = other) ∧
    ∀ order, order.Perm entries →
      ((ofList order).entries.Perm (named order) ↔ ∀ code, ¬ Doubles entries code) := by
  intro entries
  have distinct := nodup_keys_held pairs
  exact ⟨⟨distinct, held_eq_self_iff, ofList_held pairs⟩, ofList_eq_iff distinct,
    fun order isOrder => perm_ofList_iff distinct isOrder⟩

end Responses

namespace Calendar

def day (format : String) : SchemaNode := { SchemaNode.empty with format := some format }

def responses : List (StatusKey × SchemaNode) := [(.code 200, day "date"), (.text "200", day "time")]

def text : String := "\x7b200: \x7bformat: date\x7d, '200': \x7bformat: time\x7d\x7d"

def source (format : String) : Source :=
  .record false [(Yaml.scalarOf none "format" .plain, .scalar (Yaml.scalarOf none format .plain))]

theorem decode_source {format : String} (isWord : Yaml.missing none format .plain = some false) :
    SchemaNode.decode (source format) = some (day format) := by
  have isText (text : String) : (Yaml.scalarOf none text .plain).text = some text := rfl
  have isThere : (Yaml.scalarOf none format .plain).missing = some false := isWord
  have fields : Source.fields? SchemaNode.fieldNames (source format) =
      some (SchemaNode.fieldNames.map fun name =>
        if name = "format" then some (.scalar (Yaml.scalarOf none format .plain)) else none) := by
    rw [source, Source.fields?]
    simp [SchemaNode.fieldNames, Source.fieldsByName, Source.valuesOf, isText, Rule.all, Rule.name]
  rw [SchemaNode.decode, SchemaNode.decodeWith, fields]
  simp [SchemaNode.fieldNames, Rule.all, Rule.name, Source.given?, Source.optional?, isThere,
    Source.text?, isText]
  rfl

theorem read_text :
    (Yaml.read? text).bind (Source.pairs? StatusKey.decode SchemaNode.decode) = some responses := by
  have spells : (Yaml.tokens? text).bind Yaml.Tree.document? =
      some (some (.mapping ⟨none, none⟩
        [(.scalar ⟨none, none⟩ "200" .plain, .mapping ⟨none, none⟩
            [(.scalar ⟨none, none⟩ "format" .plain, .scalar ⟨none, none⟩ "date" .plain)]),
         (.scalar ⟨none, none⟩ "200" .singleQuoted, .mapping ⟨none, none⟩
            [(.scalar ⟨none, none⟩ "format" .plain, .scalar ⟨none, none⟩ "time" .plain)])])) := by
    cbv
  have read : Yaml.read? text = some (.record false
      [(Yaml.scalarOf none "200" .plain, source "date"),
       (Yaml.scalarOf none "200" .singleQuoted, source "time")]) := by
    rw [Yaml.read?, spells]
    simp [Yaml.number, Yaml.numberPairs, Yaml.expand, Yaml.expandPairs, Yaml.maxDepth, Yaml.isLocal,
      source]
  have isCode : StatusKey.decode (Yaml.scalarOf none "200" .plain) = some (.code 200) := by decide +kernel
  have isText : StatusKey.decode (Yaml.scalarOf none "200" .singleQuoted) = some (.text "200") := rfl
  have date : SchemaNode.decode (source "date") = some (day "date") := decode_source (by decide)
  have time : SchemaNode.decode (source "time") = some (day "time") := decode_source (by decide)
  rw [read, Option.bind_some, Source.pairs?]
  simp only [Source.readPairs, isCode, isText, date, time]
  rfl

/-- One of two responses is lost, and which one depends on the order. -/
theorem one_response_lost :
    (Yaml.read? text).bind (Source.pairs? StatusKey.decode SchemaNode.decode) = some responses ∧
      (responses.map Prod.fst).Nodup ∧
      Responses.ofList responses = Dict.ofList [("200", day "time")] ∧
      Responses.ofList responses.reverse = Dict.ofList [("200", day "date")] ∧
      Responses.ofList responses ≠ Responses.ofList responses.reverse ∧
      (Responses.ofList responses).size < responses.length := by
  refine ⟨read_text, by decide, rfl, rfl, fun same => ?_, by decide⟩
  have nodes : some (day "time") = some (day "date") := congrArg (fun dict => Dict.get? dict "200") same
  have formats := congrArg SchemaNode.format (Option.some.inj nodes)
  exact absurd formats (by decide)

end Calendar
end WireContract

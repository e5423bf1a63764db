import WireContract.Mapping.Conversion

namespace WireContract

def Json.isComposite : Json → Bool
  | .array _ | .object _ => true
  | _ => false

structure Converter (σ : Type) where
  validators : List (Subscription (Validator σ))
  now : Instant
  report : CheckFailure → Chain σ Unit

namespace Converter

variable {σ κ : Type} (converter : Converter σ) (tables : Tables κ)

def runCheck (field : String) (value : Json) : ValueCheck → Chain σ Unit
  | .predicate holds => unless holds value do converter.report ⟨field, value, none⟩
  | .rules rules => rules.keys.forM fun rule => do
    let outcome ← Lifecycle.check converter.validators converter.now value (rules.only rule) none
    if outcome == .fail then converter.report ⟨field, value, some rule⟩

/-- The data of a member: `parts` converts its parts, and one without parts is checked and stays. -/
def outboundMember (property : Option (Property κ)) (wireKey : String) (item : Json)
    (parts : Chain σ Json) : Chain σ Json :=
  if item.isComposite then parts
  else do
    (property.bind Property.check).forM (converter.runCheck wireKey item)
    return item

mutual

def outbound (table : Option (Table κ)) : Json → Chain σ Json
  | .array items => return .array (← outboundItems table items)
  | .object members => return .object (Dict.ofList (← outboundMembers table members)).entries
  | value => return value

def outboundItems (table : Option (Table κ)) : List Json → Chain σ (List Json)
  | [] => return []
  | item :: rest => return (← outbound table item) :: (← outboundItems table rest)

def outboundMembers (table : Option (Table κ)) :
    List (String × Json) → Chain σ (List (String × Json))
  | [] => return []
  | (key, item) :: rest => do
    let property := table.bind fun table => table.property? key
    let wireKey := (property.map Property.wireName).getD key
    let converted ← converter.outboundMember property wireKey item
      (outbound (tables.tableOf property) item)
    return (wireKey, converted) :: (← outboundMembers table rest)

end

end Converter
end WireContract

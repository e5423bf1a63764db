import WireContract.Schema.Walk

namespace WireContract
namespace Definitions

mutual

def references (definitions : Definitions) : SchemaNode → List String
  | ⟨_, _, _, _, _, reference, _, items, properties, allOf, _, _⟩ =>
    (reference.bind (nameIn? definitions.root)).toList ++ ofItems definitions items ++
      ofBranches definitions allOf ++ ofProperties definitions properties

def ofItems (definitions : Definitions) : Option SchemaNode → List String
  | none => []
  | some items => references definitions items

def ofBranches (definitions : Definitions) : Option (List SchemaNode) → List String
  | none => []
  | some branches => ofNodes definitions branches

def ofNodes (definitions : Definitions) : List SchemaNode → List String
  | [] => []
  | node :: rest => references definitions node ++ ofNodes definitions rest

def ofProperties (definitions : Definitions) : Option (List (String × SchemaNode)) → List String
  | none => []
  | some properties => ofMembers definitions properties

def ofMembers (definitions : Definitions) : List (String × SchemaNode) → List String
  | [] => []
  | (_, node) :: rest => references definitions node ++ ofMembers definitions rest

end

/-- The definitions that `pending` reaches, together with those seen already. -/
def reach (definitions : Definitions) (seen : List String) : List String → List String
  | [] => seen
  | name :: pending =>
    if _isSeen : seen.contains name then reach definitions seen pending
    else
      match _known : definitions.nodes.get? name with
      | none => reach definitions seen pending
      | some node => reach definitions (name :: seen) (definitions.references node ++ pending)
termination_by pending => (definitions.remaining seen, pending.length)
decreasing_by
  · exact Prod.Lex.right _ (by simp)
  · exact Prod.Lex.right _ (by simp)
  · refine Prod.Lex.left _ _ (remaining_lt ?_ (by simpa using _isSeen))
    exact List.mem_map.mpr ⟨(name, node), Dict.get?_eq_some_iff.mp _known, rfl⟩

end Definitions
end WireContract

import WireContract.Mapping.Table
import WireContract.Text.Debug

namespace WireContract
namespace Debug

def valueCheck : ValueCheck → String
  | .rules set => "Rules(" ++ rules set ++ ")"
  | .predicate _ => "Custom(..)"

def property {κ : Type} (tables : Tables κ) (property : Property κ) : String :=
  record "FieldMeta"
    [ ("name", Text.quoted property.name), ("wire_name", optional Text.quoted property.rename),
      ("nested", optional (fun model => Text.quoted (tables model).name) property.nested),
      ("transform", bool property.transform.isSome), ("check", optional valueCheck property.check),
      ("location", optional location property.location) ]

end Debug
end WireContract

import WireContract.Contract.Basic
import WireContract.Digest.Sha256
import WireContract.Text.Debug

namespace WireContract

namespace Debug

def field (field : Field) : String :=
  record "FieldDescriptor"
    [ ("name", Text.quoted field.name), ("type_name", Text.quoted field.type),
      ("optional", bool field.optional), ("description", optional Text.quoted field.description),
      ("referenced_type", optional Text.quoted field.referencedType),
      ("inline_rules", optional rules field.inlineRules),
      ("location", optional location field.location), ("rename", optional Text.quoted field.rename),
      ("enum_values", optional jsonList field.oneOf) ]

def fields (fields : List Field) : String := list (fields.map field)

def model : Model → String
  | .object name members => record "Object" [("name", Text.quoted name), ("fields", fields members)]
  | .alias name type oneOf description =>
    record "Alias"
      [ ("name", Text.quoted name), ("type_name", Text.quoted type),
        ("enum_values", optional jsonList oneOf),
        ("description", optional Text.quoted description) ]

def models (models : List Model) : String := list (models.map model)

end Debug

/-- What is hashed of an operation; its controller, summary and statuses are not. -/
def Endpoint.hashedText (endpoint : Endpoint) : String :=
  String.join
    [ endpoint.method, endpoint.url, endpoint.operationId, Debug.fields endpoint.request,
      Debug.fields endpoint.response, Debug.checkModel endpoint.check ]

namespace Contract

def hashedText (contract : Contract) : String :=
  contract.name ++ contract.version ++ String.join (contract.operations.map Endpoint.hashedText) ++
    Debug.models contract.models

def contentHash (contract : Contract) : String := Sha256.hex contract.hashedText

end Contract
end WireContract

import WireContract.CheckModel
import WireContract.Text.Basic

namespace WireContract

structure Field where
  name : String
  /-- a primitive type, a model, or either followed by `[]` -/
  type : String
  optional : Bool
  description : Option String
  /-- the model that the field or its items refer to -/
  referencedType : Option String
  inlineRules : Option RuleSet
  /-- where a request field is read from -/
  location : Option Location
  /-- the name in data, where it is not `name` -/
  rename : Option String
  oneOf : Option (List Json)

namespace Field

def new (name type : String) : Field := ⟨name, type, false, none, none, none, none, none, none⟩

def wireName (field : Field) : String := field.rename.getD field.name

end Field

inductive Model
  | object (name : String) (fields : List Field)
  | alias (name : String) (type : String) (oneOf : Option (List Json)) (description : Option String)

namespace Model

def name : Model → String
  | .object name _ => name
  | .alias name _ _ _ => name

def fields : Model → List Field
  | .object _ fields => fields
  | .alias .. => []

end Model

structure Endpoint where
  method : String
  url : String
  operationId : String
  controller : Option String
  summary : Option String
  request : List Field
  response : List Field
  statuses : List String
  check : CheckModel

namespace Endpoint

def requestModel (endpoint : Endpoint) : String :=
  Text.upperFirst endpoint.operationId ++ "RequestBody"

def responseModel (endpoint : Endpoint) : String :=
  Text.upperFirst endpoint.operationId ++ "ResponseBody"

end Endpoint

structure Contract where
  name : String
  version : String
  operations : List Endpoint
  models : List Model

namespace Contract

def operation? (contract : Contract) (id : String) : Option Endpoint :=
  contract.operations.find? fun endpoint => endpoint.operationId == id

def model? (contract : Contract) (name : String) : Option Model :=
  contract.models.find? fun model => model.name == name

end Contract
end WireContract

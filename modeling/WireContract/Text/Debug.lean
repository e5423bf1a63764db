import WireContract.CheckModel
import WireContract.Decimal.Layout
import WireContract.Text.Quoted

namespace WireContract
namespace Debug

def list (items : List String) : String := "[" ++ ", ".intercalate items ++ "]"

def optional {α : Type} (text : α → String) : Option α → String
  | none => "None"
  | some value => "Some(" ++ text value ++ ")"

def bool (b : Bool) : String := if b then "true" else "false"

def float (x : Float) : String := FloatLayout.debug.text x

def map (pairs : List (String × String)) : String :=
  "\x7b" ++ ", ".intercalate (pairs.map fun (key, value) => key ++ ": " ++ value) ++ "\x7d"

def record (name : String) (fields : List (String × String)) : String :=
  name ++ " \x7b " ++ ", ".intercalate (fields.map fun (key, value) => key ++ ": " ++ value) ++ " \x7d"

mutual

def json : Json → String
  | .null => "Null"
  | .bool b => "Bool(" ++ bool b ++ ")"
  | .number n => "Number(" ++ n.text ++ ")"
  | .string s => "String(" ++ Text.quoted s ++ ")"
  | .array items => "Array " ++ list (jsonItems items)
  | .object members => "Object " ++ map (jsonMembers members)

def jsonItems : List Json → List String
  | [] => []
  | item :: rest => json item :: jsonItems rest

def jsonMembers : List (String × Json) → List (String × String)
  | [] => []
  | (key, value) :: rest => (Text.quoted key, json value) :: jsonMembers rest

end

def jsonList (values : List Json) : String := list (values.map json)

def rules (rules : RuleSet) : String :=
  record "RuleSet"
    [ ("required", optional bool rules.required),
      ("max_length", optional toString rules.maxLength),
      ("min_length", optional toString rules.minLength),
      ("x_max_length", optional toString rules.xMaxLength),
      ("x_min_length", optional toString rules.xMinLength),
      ("maximum", optional float rules.maximum),
      ("minimum", optional float rules.minimum),
      ("pattern", optional Text.quoted rules.pattern),
      ("enum_values", optional jsonList rules.oneOf),
      ("max_items", optional toString rules.maxItems),
      ("min_items", optional toString rules.minItems) ]

def location : Location → String
  | .query => "Query"
  | .path => "Path"
  | .header => "Header"
  | .body => "Body"
  | .definitions => "Definitions"

def checkModel (model : CheckModel) : String :=
  let fields (fields : Dict RuleSet) : String :=
    map (fields.entries.map fun (path, entry) => (Text.quoted path, rules entry))
  let sections := Location.all.filterMap fun place =>
    (model.section? place).map fun entries => (location place, fields entries)
  record "CheckModel" [("sections", map sections)]

end Debug
end WireContract

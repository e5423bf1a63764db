namespace WireContract

inductive Location
  | query
  | path
  | header
  | body
  | definitions
  deriving DecidableEq, Repr

namespace Location

def all : List Location := [.query, .path, .header, .body, .definitions]

def name : Location → String
  | .query => "query"
  | .path => "path"
  | .header => "header"
  | .body => "body"
  | .definitions => "definitions"

def ofName? (name : String) : Option Location := all.find? fun location => location.name == name

theorem ofName?_name (location : Location) : ofName? location.name = some location := by
  cases location <;> rfl

theorem mem_all (location : Location) : location ∈ all := by cases location <;> decide

end Location
end WireContract

import WireContract.Unicode.CodeSet
import WireContract.Unicode.Category
import WireContract.Unicode.Script
import WireContract.Unicode.ScriptExtension
import WireContract.Unicode.Binary
import WireContract.Unicode.Folding

namespace WireContract
namespace Unicode

def lookup (name : String) (table : List (List String × String)) : Option CodeSet :=
  (table.find? fun row => row.1.contains name).map fun row => CodeSet.ofText row.2

/-- Names compare without case, blanks, `_`, `-`, characters beyond ASCII and a leading `is`. -/
def looseName (name : String) : String :=
  let letters := name.toList
  let (marked, body) := match letters with
    | a :: b :: rest => if (a = 'i' ∨ a = 'I') ∧ (b = 's' ∨ b = 'S') then (true, rest) else (false, letters)
    | _ => (false, letters)
  let kept := (body.filter fun c => c != ' ' && c != '_' && c != '-' && c.toNat < 128).map Char.toLower
  if marked && kept == ['c'] then "isc" else String.ofList kept

def categoryGroups : List (List String × List String) :=
  [ (["l", "letter"], ["lu", "ll", "lt", "lm", "lo"]),
    (["lc", "casedletter"], ["lu", "ll", "lt"]),
    (["m", "mark", "combiningmark"], ["mn", "mc", "me"]),
    (["n", "number"], ["nd", "nl", "no"]),
    (["p", "punctuation", "punct"], ["pc", "pd", "ps", "pe", "pi", "pf", "po"]),
    (["s", "symbol"], ["sm", "sc", "sk", "so"]),
    (["z", "separator"], ["zs", "zl", "zp"]),
    (["c", "other"], ["cc", "cf", "co", "cn"]) ]

def category? (name : String) : Option CodeSet :=
  match name with
  | "any" => some CodeSet.all
  | "ascii" => some (CodeSet.range '\x00' '\x7f')
  | "assigned" => (lookup "cn" categories).map CodeSet.complement
  | "cs" | "surrogate" => some CodeSet.empty
  | _ =>
    match lookup name categories with
    | some set => some set
    | none =>
      (categoryGroups.find? fun group => group.1.contains name).map fun group =>
        CodeSet.unions (group.2.filterMap fun member => lookup member categories)

def script? (name : String) : Option CodeSet := lookup name scripts

def scriptExtension? (name : String) : Option CodeSet :=
  match lookup name scriptExtensions with
  | some set => some set
  | none => script? name

def binary? (name : String) : Option CodeSet := lookup name binaries

def otherProperties : List String :=
  [ "age", "block", "blk", "bidiclass", "bc", "canonicalcombiningclass", "ccc", "casefolding",
    "decompositionmapping", "dm", "decompositiontype", "dt", "eastasianwidth", "ea",
    "generalcategory", "gc", "graphemeclusterbreak", "gcb", "hangulsyllabletype", "hst",
    "isocomment", "isc", "joininggroup", "jg", "joiningtype", "jt", "linebreak", "lb",
    "lowercasemapping", "name", "na", "unicode1name", "na1", "namealias", "numerictype", "nt",
    "numericvalue", "nv", "script", "scriptextensions", "scx", "sentencebreak", "sb",
    "simplecasefolding", "scf", "sfc", "simplelowercasemapping", "slc", "simpletitlecasemapping",
    "stc", "simpleuppercasemapping", "suc", "titlecasemapping", "tc", "uppercasemapping", "uc",
    "verticalorientation", "vo", "wordbreak", "wb", "nfcquickcheck", "nfcqc", "nfdquickcheck",
    "nfdqc", "nfkcquickcheck", "nfkcqc", "nfkdquickcheck", "nfkdqc", "nfkccasefold", "nfkccf",
    "fcnfkcclosure", "fcnfkc", "indicsyllabiccategory", "insc", "indicpositionalcategory", "inpc",
    "bidimirroringglyph", "bmg", "bidipairedbracket", "bpb", "bidipairedbrackettype", "bpt",
    "equivalentunifiedideograph", "equideo" ]

def byName? (name : String) : Option CodeSet :=
  let loose := looseName name
  let category := fun (_ : Unit) => (category? loose).or (script? loose)
  if loose == "cf" || loose == "sc" || loose == "lc" then category ()
  else
    match binary? loose with
    | some set => some set
    | none => if otherProperties.contains loose then none else category ()

def byValue? (property value : String) : Option CodeSet :=
  let value := looseName value
  match looseName property with
  | "generalcategory" | "gc" => category? value
  | "script" | "sc" => script? value
  | "scriptextensions" | "scx" => scriptExtension? value
  | _ => none

def digit : CodeSet := (category? "nd").getD default

def blank : CodeSet := (binary? "whitespace").getD default

def word : CodeSet :=
  CodeSet.unions ([binary? "alphabetic", category? "m", category? "nd", category? "pc",
    binary? "joincontrol"].filterMap id)

def alphabetic : CodeSet := (binary? "alphabetic").getD default

def numeric : CodeSet := (category? "n").getD default

def extending : CodeSet := (binary? "graphemeextend").getD default

/-- Characters without a visible form of their own, the blank U+0020 apart. -/
def invisible : CodeSet :=
  (CodeSet.unions (["cc", "cf", "co", "cn", "zs", "zl", "zp"].filterMap category?)).diff
    (CodeSet.single ' ')

def hexadecimal (digits : String) : Nat :=
  digits.foldl (fun n c => n * 16 + (if c ≤ '9' then c.toNat - 48 else c.toNat - 55)) 0

def foldings : List (List Nat) :=
  ((foldingGroups.split Char.isWhitespace).toStringList.filter (· != "")).map fun group =>
    ((group.split (· == ',')).toStringList).map hexadecimal

def foldCase (set : CodeSet) : CodeSet :=
  let added := foldings.filter fun group => group.any set.containsCode
  CodeSet.ofRanges (set.ranges ++ added.flatten.map fun code => (code, code))

end Unicode
end WireContract

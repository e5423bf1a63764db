import WireContract.Decode.Reading
import WireContract.Lifecycle
import WireContract.Schema.Document

namespace WireContract

structure Auth where
  tokenHeader : String

namespace Auth

def default : Auth := ⟨Lifecycle.defaultTokenHeader⟩

def encode (auth : Auth) : Json := .object [("token_header", .string auth.tokenHeader)]

open Source in
def decode (source : Source) : Option Auth :=
  match fields? ["token_header"] source with
  | some [tokenHeader] => (defaulted? default.tokenHeader text? tokenHeader).map Auth.mk
  | _ => none

end Auth

/-- Which operations are selected: by URL, or a URL's beginning and `*`, and by method. -/
structure Selection where
  interface : Option String
  method : Option String

namespace Selection

def everything : Selection := ⟨none, none⟩

def matchesUrl (pattern url : String) : Bool :=
  match ['*'].isSuffixOf? pattern.toList with
  | some start => start.isPrefixOf url.toList
  | none => pattern == url

def selects (selection : Selection) (url method : String) : Bool :=
  let wanted (condition : Option String) (holds : String → Bool) : Bool :=
    condition.all fun text => text == "" || holds text
  wanted selection.interface (fun pattern => matchesUrl pattern url) &&
    wanted selection.method (fun name => Text.sameIgnoringCase name method)

def encode (selection : Selection) : Json :=
  let optional (text : Option String) : Json := (text.map Json.string).getD .null
  .object [("interface", optional selection.interface), ("method", optional selection.method)]

open Source in
def decode (source : Source) : Option Selection :=
  match fields? ["interface", "method"] source with
  | some [interface, method] => do
    let interface ← given? text? interface
    let method ← given? text? method
    return ⟨interface, method⟩
  | _ => none

end Selection

structure References where
  root : String

namespace References

def default : References := ⟨Definitions.defaultRoot⟩

def encode (references : References) : Json := .object [("prefix", .string references.root)]

open Source in
def decode (source : Source) : Option References :=
  match fields? ["prefix"] source with
  | some [root] => (defaulted? default.root text? root).map References.mk
  | _ => none

end References

structure Project where
  name : String
  version : String
  document : String
  output : String
  auth : Auth
  filter : Selection
  references : References

namespace Project

def fileName : String := "apiguard.yaml"

def defaultVersion : String := "0.1.0"

def named (name : String) : Project where
  name := name
  version := defaultVersion
  document := "swagger.yaml"
  output := ".apiguard/compiled.json"
  auth := .default
  filter := .everything
  references := .default

def encode (project : Project) : Json :=
  .object (Dict.ofList
    [ ("name", .string project.name), ("version", .string project.version),
      ("document", .string project.document), ("output", .string project.output),
      ("auth", project.auth.encode), ("filter", project.filter.encode),
      ("references", project.references.encode) ]).entries

open Source in
def decode (source : Source) : Option Project :=
  match fields? ["name", "version", "document", "output", "auth", "filter", "references"] source with
  | some [name, version, document, output, auth, filter, references] => do
    let name ← required? text? name
    let base := named name
    let version ← defaulted? base.version text? version
    let document ← defaulted? base.document text? document
    let output ← defaulted? base.output text? output
    let auth ← defaulted? base.auth Auth.decode auth
    let filter ← defaulted? base.filter Selection.decode filter
    let references ← defaulted? base.references References.decode references
    return ⟨name, version, document, output, auth, filter, references⟩
  | _ => none

def lifecycle (project : Project) : Lifecycle Unit := .withHeader project.auth.tokenHeader

end Project
end WireContract

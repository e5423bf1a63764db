import WireContract.Project.Basic

namespace WireContract

inductive Command
  | init (path : String) (name : Option String)
  | compile (operation : Option String)
  | check (operation request : String)
  | status

inductive Invocation
  | run (config : String) (command : Command)
  | help (command : Option String)
  | version

/-- An option with its short letter; one without a value is a switch. -/
structure OptionSpec where
  short : Char
  long : String
  takesValue : Bool

structure ArgumentSpec where
  options : List OptionSpec
  positionals : Nat

structure Given where
  options : List (String × String)
  positionals : List String

inductive ArgumentResult
  | given (given : Given) (rest : List String)
  | help
  | version
  | wrong

namespace ArgumentSpec

def helpOption : OptionSpec := ⟨'h', "help", false⟩

def versionOption : OptionSpec := ⟨'V', "version", false⟩

def program : ArgumentSpec :=
  ⟨[⟨'c', "config", true⟩, ⟨'v', "verbose", false⟩, versionOption, helpOption], 0⟩

def ofCommand? (name : String) : Option ArgumentSpec :=
  match name with
  | "init" => some ⟨[⟨'n', "name", true⟩, helpOption], 1⟩
  | "compile" => some ⟨[⟨'o', "operation", true⟩, helpOption], 0⟩
  | "check" => some ⟨[⟨'o', "operation", true⟩, ⟨'r', "request", true⟩, helpOption], 0⟩
  | "status" => some ⟨[helpOption], 0⟩
  | _ => none

inductive Step
  | stop (result : ArgumentResult)
  | next (given : Given) (rest : List String)

/-- An option may be given once; help and the version are shown as soon as they are asked for. -/
def accept (option : OptionSpec) (value : String) (given : Given) (rest : List String) : Step :=
  if option.long == "help" then .stop .help
  else if option.long == "version" then .stop .version
  else if given.options.any fun entry => entry.1 == option.long then .stop .wrong
  else .next { given with options := (option.long, value) :: given.options } rest

def isValue (argument : String) : Bool :=
  match argument.toList with
  | '-' :: _ :: _ => false
  | _ => true

def acceptNext (option : OptionSpec) (given : Given) (rest : List String) : Step :=
  match rest with
  | value :: rest => if isValue value then accept option value given rest else .stop .wrong
  | [] => .stop .wrong

def long (spec : ArgumentSpec) (body : List Char) (given : Given) (rest : List String) : Step :=
  let name := String.ofList (body.takeWhile (· != '='))
  match spec.options.find? fun option => option.long == name with
  | none => .stop .wrong
  | some option =>
    match body.dropWhile (· != '='), option.takesValue with
    | _ :: value, true => accept option (String.ofList value) given rest
    | _ :: _, false => .stop .wrong
    | [], true => acceptNext option given rest
    | [], false => accept option "" given rest

/-- Options by their letters, in one argument; what follows a letter that takes a value is the value. -/
def short (spec : ArgumentSpec) (given : Given) (rest : List String) : List Char → Step
  | [] => .next given rest
  | letter :: letters =>
    match spec.options.find? fun option => option.short == letter with
    | none => .stop .wrong
    | some option =>
      if option.takesValue then
        match letters with
        | [] => acceptNext option given rest
        | '=' :: value => accept option (String.ofList value) given rest
        | value => accept option (String.ofList value) given rest
      else
        match accept option "" given rest with
        | .stop result => .stop result
        | .next given rest => short spec given rest letters

def positional (spec : ArgumentSpec) (value : String) (given : Given) : Option Given :=
  if given.positionals.length < spec.positionals then
    some { given with positionals := given.positionals ++ [value] }
  else none

def readValues (spec : ArgumentSpec) (given : Given) : List String → ArgumentResult
  | [] => .given given []
  | value :: rest =>
    match spec.positional value given with
    | some given => readValues spec given rest
    | none => .wrong

/-- Reads arguments up to the first value that there is no room for; `fuel` bounds their number. -/
def readWith (spec : ArgumentSpec) : Nat → Given → List String → ArgumentResult
  | 0, _, _ => .wrong
  | fuel + 1, given, arguments =>
    let continueWith : Step → ArgumentResult
      | .stop result => result
      | .next given rest => readWith spec fuel given rest
    match arguments with
    | [] => .given given []
    | argument :: rest =>
      match argument.toList with
      | ['-', '-'] => spec.readValues given rest
      | '-' :: '-' :: body => continueWith (spec.long body given rest)
      | '-' :: letter :: letters => continueWith (spec.short given rest (letter :: letters))
      | _ =>
        match spec.positional argument given with
        | some given => readWith spec fuel given rest
        | none => .given given (argument :: rest)

def read (spec : ArgumentSpec) (arguments : List String) : ArgumentResult :=
  spec.readWith (arguments.length + 1) ⟨[], []⟩ arguments

end ArgumentSpec

namespace Given

def option? (given : Given) (name : String) : Option String :=
  (given.options.find? fun entry => entry.1 == name).map (·.2)

def command? (name : String) (given : Given) : Option Command :=
  match name with
  | "init" => some (.init (given.positionals.head?.getD ".") (given.option? "name"))
  | "compile" => some (.compile (given.option? "operation"))
  | "check" => do
    let operation ← given.option? "operation"
    let request ← given.option? "request"
    return .check operation request
  | "status" => some .status
  | _ => none

end Given

namespace Invocation

def helpOn? : List String → Option Invocation
  | [] => some (.help none)
  | [name] =>
    if name == "help" || (ArgumentSpec.ofCommand? name).isSome then some (.help (some name)) else none
  | _ => none

def ofArguments? (arguments : List String) : Option Invocation :=
  match ArgumentSpec.program.read arguments with
  | .help => some (.help none)
  | .version => some .version
  | .wrong => none
  | .given _ [] => none
  | .given given (name :: rest) =>
    if name == "help" then helpOn? rest
    else
      match ArgumentSpec.ofCommand? name with
      | none => none
      | some spec =>
        match spec.read rest with
        | .help => some (.help (some name))
        | .given own [] =>
          (own.command? name).map (.run ((given.option? "config").getD Project.fileName))
        | _ => none

end Invocation
end WireContract

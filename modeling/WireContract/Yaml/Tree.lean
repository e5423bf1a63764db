import WireContract.Yaml.Lexer

namespace WireContract
namespace Yaml

structure Properties where
  anchor : Option String
  tag : Option String

inductive Tree
  | scalar (properties : Properties) (text : String) (style : ScalarStyle)
  | sequence (properties : Properties) (items : List Tree)
  | mapping (properties : Properties) (pairs : List (Tree × Tree))
  | alias (name : String)

namespace Tree

def absent : Tree := .scalar ⟨none, none⟩ "" .plain

abbrev Handles := List (String × String)

def defaultHandles : Handles := [("!", "!"), ("!!", "tag:yaml.org,2002:")]

def tagOf? (handles : Handles) (handle suffix : String) : Option String :=
  if handle.isEmpty then some suffix
  else (handles.find? fun entry => entry.1 == handle).map fun entry => entry.2 ++ suffix

def properties? (handles : Handles) (tokens : List Token) : Option (Properties × List Token) :=
  match tokens with
  | .anchor name :: .tag handle suffix :: rest =>
    (tagOf? handles handle suffix).map fun tag => (⟨some name, some tag⟩, rest)
  | .anchor name :: rest => some (⟨some name, none⟩, rest)
  | .tag handle suffix :: .anchor name :: rest =>
    (tagOf? handles handle suffix).map fun tag => (⟨some name, some tag⟩, rest)
  | .tag handle suffix :: rest =>
    (tagOf? handles handle suffix).map fun tag => (⟨none, some tag⟩, rest)
  | rest => some (⟨none, none⟩, rest)

/-- A scalar tagged `!` alone counts as one without a tag. -/
def scalarOf (properties : Properties) (text : String) (style : ScalarStyle) : Tree :=
  if properties.tag == some "!" then .scalar ⟨properties.anchor, none⟩ text style
  else .scalar properties text style

def endsBlockValue : Token → Bool
  | .key => true
  | .value => true
  | .blockEnd => true
  | _ => false

mutual

/-- A value; `block` where blocks may start, `bare` where entries need no block of their own. -/
def node (handles : Handles) (block bare : Bool) : Nat → List Token → Option (Tree × List Token)
  | 0, _ => none
  | fuel + 1, tokens =>
    match tokens with
    | .alias name :: rest => some (.alias name, rest)
    | _ =>
      match properties? handles tokens with
      | none => none
      | some (properties, tokens) =>
        match tokens with
        | .blockEntry :: _ =>
          if bare then
            (bareEntries handles fuel tokens).map fun (items, rest) => (.sequence properties items, rest)
          else left properties tokens
        | .scalar text style :: rest => some (scalarOf properties text style, rest)
        | .flowSequenceStart :: rest =>
          (flowItems handles fuel true rest).map fun (items, rest) => (.sequence properties items, rest)
        | .flowMappingStart :: rest =>
          (flowPairs handles fuel true rest).map fun (pairs, rest) => (.mapping properties pairs, rest)
        | .blockSequenceStart :: rest =>
          if block then
            (blockEntries handles fuel rest).map fun (items, rest) => (.sequence properties items, rest)
          else left properties tokens
        | .blockMappingStart :: rest =>
          if block then
            (blockPairs handles fuel rest).map fun (pairs, rest) => (.mapping properties pairs, rest)
          else left properties tokens
        | _ => left properties tokens
where
  left (properties : Properties) (tokens : List Token) : Option (Tree × List Token) :=
    if properties.anchor.isSome || properties.tag.isSome then
      some (.scalar properties "" .plain, tokens)
    else none

def blockEntries (handles : Handles) : Nat → List Token → Option (List Tree × List Token)
  | 0, _ => none
  | fuel + 1, .blockEntry :: rest =>
    let item := match rest with
      | .blockEntry :: _ => some (absent, rest)
      | .blockEnd :: _ => some (absent, rest)
      | _ => node handles true false fuel rest
    match item with
    | none => none
    | some (item, rest) =>
      (blockEntries handles fuel rest).map fun (items, rest) => (item :: items, rest)
  | _ + 1, .blockEnd :: rest => some ([], rest)
  | _ + 1, _ => none

def bareEntries (handles : Handles) : Nat → List Token → Option (List Tree × List Token)
  | 0, _ => none
  | fuel + 1, .blockEntry :: rest =>
    let item := match rest with
      | .blockEntry :: _ => some (absent, rest)
      | token :: _ => if endsBlockValue token then some (absent, rest) else node handles true false fuel rest
      | [] => none
    match item with
    | none => none
    | some (item, rest) =>
      (bareEntries handles fuel rest).map fun (items, rest) => (item :: items, rest)
  | _ + 1, rest => some ([], rest)

def blockPart (handles : Handles) : Nat → List Token → Option (Tree × List Token)
  | 0, _ => none
  | fuel + 1, tokens =>
    match tokens with
    | token :: _ => if endsBlockValue token then some (absent, tokens) else node handles true true fuel tokens
    | [] => none

def blockPairs (handles : Handles) : Nat → List Token → Option (List (Tree × Tree) × List Token)
  | 0, _ => none
  | _ + 1, .blockEnd :: rest => some ([], rest)
  | fuel + 1, .key :: rest =>
    match blockPart handles fuel rest with
    | none => none
    | some (key, rest) =>
      let value := match rest with
        | .value :: rest => blockPart handles fuel rest
        | _ => some (absent, rest)
      match value with
      | none => none
      | some (value, rest) =>
        (blockPairs handles fuel rest).map fun (pairs, rest) => ((key, value) :: pairs, rest)
  | _ + 1, _ => none

def flowValue (handles : Handles) (close : Token) : Nat → List Token → Option (Tree × List Token)
  | 0, _ => none
  | fuel + 1, .value :: rest =>
    match rest with
    | token :: _ =>
      if token == .flowEntry || token == close then some (absent, rest)
      else node handles false false fuel rest
    | [] => none
  | _ + 1, rest => some (absent, rest)

def flowItems (handles : Handles) : Nat → Bool → List Token → Option (List Tree × List Token)
  | 0, _, _ => none
  | _ + 1, _, .flowSequenceEnd :: rest => some ([], rest)
  | fuel + 1, first, tokens =>
    let after := if first then some tokens else
      match tokens with
      | .flowEntry :: rest => some rest
      | _ => none
    match after with
    | none => none
    | some (.flowSequenceEnd :: rest) => some ([], rest)
    | some (.key :: rest) =>
      let key := match rest with
        | .value :: rest => some (absent, rest)
        | .flowEntry :: rest => some (absent, rest)
        | .flowSequenceEnd :: rest => some (absent, rest)
        | _ => node handles false false fuel rest
      match key with
      | none => none
      | some (key, rest) =>
        match flowValue handles .flowSequenceEnd fuel rest with
        | none => none
        | some (value, rest) =>
          (flowItems handles fuel false rest).map fun (items, rest) =>
            (.mapping ⟨none, none⟩ [(key, value)] :: items, rest)
    | some tokens =>
      match node handles false false fuel tokens with
      | none => none
      | some (item, rest) =>
        (flowItems handles fuel false rest).map fun (items, rest) => (item :: items, rest)

def flowPairs (handles : Handles) : Nat → Bool → List Token → Option (List (Tree × Tree) × List Token)
  | 0, _, _ => none
  | _ + 1, _, .flowMappingEnd :: rest => some ([], rest)
  | fuel + 1, first, tokens =>
    let after := if first then some tokens else
      match tokens with
      | .flowEntry :: rest => some rest
      | _ => none
    match after with
    | none => none
    | some (.flowMappingEnd :: rest) => some ([], rest)
    | some (.key :: rest) =>
      let key := match rest with
        | .value :: _ => some (absent, rest)
        | .flowEntry :: _ => some (absent, rest)
        | .flowMappingEnd :: _ => some (absent, rest)
        | _ => node handles false false fuel rest
      match key with
      | none => none
      | some (key, rest) =>
        match flowValue handles .flowMappingEnd fuel rest with
        | none => none
        | some (value, rest) =>
          (flowPairs handles fuel false rest).map fun (pairs, rest) => ((key, value) :: pairs, rest)
    | some tokens =>
      match node handles false false fuel tokens with
      | none => none
      | some (key, rest) =>
        (flowPairs handles fuel false rest).map fun (pairs, rest) => ((key, absent) :: pairs, rest)

end

/-- The directives before a document: one version, of 1.1 or 1.2, and tag handles, each once. -/
def directives? : Bool → Handles → List Token → Option (Handles × List Token)
  | versioned, handles, .version major minor :: rest =>
    if versioned || major != 1 || (minor != 1 && minor != 2) then none
    else directives? true handles rest
  | versioned, handles, .tagDirective handle lead :: rest =>
    if handles.any fun entry => entry.1 == handle then none
    else directives? versioned ((handle, lead) :: handles) rest
  | _, handles, rest => some (handles ++ defaultHandles, rest)

def marked (handles : Handles) (tokens : List Token) : Option (Tree × List Token) :=
  match tokens with
  | .version _ _ :: _ => some (absent, tokens)
  | .tagDirective _ _ :: _ => some (absent, tokens)
  | .documentStart :: _ => some (absent, tokens)
  | .documentEnd :: _ => some (absent, tokens)
  | .streamEnd :: _ => some (absent, tokens)
  | _ => node handles true false (3 * tokens.length + 3) tokens

/-- The only document of a text: none if there is nothing but comments; more than one is refused. -/
def document? (tokens : List Token) : Option (Option Tree) :=
  match tokens with
  | [.streamEnd] => some none
  | _ =>
    let unmarked := match tokens with
      | .version _ _ :: _ => false
      | .tagDirective _ _ :: _ => false
      | .documentStart :: _ => false
      | _ => true
    let parsed := match unmarked, directives? false [] tokens with
      | true, _ => node defaultHandles true false (3 * tokens.length + 3) tokens
      | false, some (handles, .documentStart :: rest) => marked handles rest
      | false, _ => none
    match parsed with
    | some (tree, rest) =>
      if rest.dropWhile (· == .documentEnd) = [.streamEnd] then some (some tree) else none
    | none => none

end Tree
end Yaml
end WireContract

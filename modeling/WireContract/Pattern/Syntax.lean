namespace WireContract
namespace Pattern

inductive Anchor
  | lineStart
  | lineEnd
  | textStart
  | textEnd
  | word
  | notWord
  | wordStart
  | wordEnd
  | wordStartHalf
  | wordEndHalf
  deriving DecidableEq, Repr

inductive ShortClass
  | digit
  | space
  | word
  deriving DecidableEq, Repr

inductive PropertyQuery
  | name (name : String)
  | value (property value : String)
  deriving DecidableEq, Repr

/-- A literal character; `byte` when it was written as a two-digit escape. -/
structure Literal where
  char : Char
  byte : Bool
  deriving DecidableEq, Repr

inductive Atom
  | literal (l : Literal)
  | any
  | anchor (a : Anchor)
  | property (negated : Bool) (query : PropertyQuery)
  | short (negated : Bool) (kind : ShortClass)
  deriving DecidableEq, Repr

inductive SetOperation
  | intersection
  | difference
  | symmetricDifference
  deriving DecidableEq, Repr

inductive ClassSet
  | literal (l : Literal)
  | range (low high : Literal)
  | named (negated : Bool) (name : String)
  | property (negated : Bool) (query : PropertyQuery)
  | short (negated : Bool) (kind : ShortClass)
  | bracketed (negated : Bool) (inner : ClassSet)
  | union (members : List ClassSet)
  | operation (op : SetOperation) (left right : ClassSet)

inductive Flag
  | ignoreCase
  | multiLine
  | dotAll
  | swapGreed
  | unicode
  | crlf
  | ignoreBlanks
  deriving DecidableEq, Repr

abbrev FlagChange := List (Flag × Bool)

inductive GroupKind
  | numbered
  | named (name : String)
  | flagged (change : FlagChange)

inductive Node
  | empty
  | flags (change : FlagChange)
  | atom (a : Atom)
  | bracketed (negated : Bool) (inner : ClassSet)
  | repetition (body : Node) (least : Nat) (most : Option Nat)
  | group (kind : GroupKind) (body : Node)
  | alternation (branches : List Node)
  | sequence (parts : List Node)

namespace ClassSet

mutual

def depth : ClassSet → Nat
  | .bracketed _ inner => inner.depth + 1
  | .union members => depthList members + 1
  | .operation _ left right => max left.depth right.depth + 1
  | _ => 0

def depthList : List ClassSet → Nat
  | [] => 0
  | member :: rest => max member.depth (depthList rest)

end

end ClassSet

namespace Node

mutual

/-- How deep compound expressions nest. -/
def depth : Node → Nat
  | .bracketed _ inner => inner.depth + 1
  | .repetition body _ _ => body.depth + 1
  | .group _ body => body.depth + 1
  | .alternation branches => depthList branches + 1
  | .sequence parts => depthList parts + 1
  | _ => 0

def depthList : List Node → Nat
  | [] => 0
  | part :: rest => max part.depth (depthList rest)

end

mutual

def groupNames : Node → List String
  | .repetition body _ _ => body.groupNames
  | .group (.named name) body => name :: body.groupNames
  | .group _ body => body.groupNames
  | .alternation branches => groupNamesList branches
  | .sequence parts => groupNamesList parts
  | _ => []

def groupNamesList : List Node → List String
  | [] => []
  | part :: rest => part.groupNames ++ groupNamesList rest

end

end Node

end Pattern
end WireContract

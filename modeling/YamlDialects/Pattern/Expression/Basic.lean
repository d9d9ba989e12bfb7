import YamlDialects.Pattern.Basic

set_option autoImplicit false

namespace YamlDialects

inductive ClassName where
  | digit
  | blank
  | word
  | ascii (name : String)
  | property (name : List Char)
  | propertyValue (name value : List Char)
deriving DecidableEq, Inhabited

inductive SetOperation where
  | inter
  | diff
  | symmDiff
deriving DecidableEq, Inhabited

structure Literal where
  char : Char
  isByte : Bool := false
deriving DecidableEq, Inhabited

inductive SetExpression where
  | literal (literal : Literal)
  | range (first last : Literal)
  | named (negated : Bool) (name : ClassName)
  | bracketed (negated : Bool) (inner : SetExpression)
  | union (items : List SetExpression)
  | operation (kind : SetOperation) (left right : SetExpression)
deriving Inhabited

inductive AssertionMark where
  | lineStart
  | lineStop
  | textStart
  | textStop
  | word (edge : WordEdge)
deriving DecidableEq, Inhabited

inductive Flag where
  | ignoreCase
  | multiLine
  | dotAll
  | swapGreed
  | unicode
  | carriageReturn
  | verbose
deriving DecidableEq, Inhabited

structure FlagChange where
  on : List Flag := []
  off : List Flag := []
deriving DecidableEq, Inhabited

namespace FlagChange

def apply (change : FlagChange) (flag : Flag) (value : Bool) : Bool :=
  if change.on.contains flag then true else if change.off.contains flag then false else value

end FlagChange

inductive Expression where
  | literal (literal : Literal)
  | dot
  | assertion (mark : AssertionMark)
  | named (negated : Bool) (name : ClassName)
  | set (negated : Bool) (inner : SetExpression)
  | flags (change : FlagChange)
  | group (isCapture : Bool) (change : FlagChange) (inner : Expression)
  | repeated (inner : Expression) (least : Nat) (most : Option Nat)
  | concat (parts : List Expression)
  | alternatives (parts : List Expression)
deriving Inhabited

namespace SetExpression

def ofItems : List SetExpression → SetExpression
  | [item] => item
  | items => .union items

mutual

def depth : SetExpression → Nat
  | .bracketed _ inner => 1 + depth inner
  | .union [] => 0
  | .union items => 1 + depthAll items
  | .operation _ left right => 1 + max (depth left) (depth right)
  | _ => 0

def depthAll : List SetExpression → Nat
  | [] => 0
  | item :: rest => max (depth item) (depthAll rest)

end

end SetExpression

namespace Expression

def ofParts : List Expression → Expression
  | [part] => part
  | parts => .concat parts

def ofAlternatives : List Expression → Expression
  | [part] => part
  | parts => .alternatives parts

def isRepeatable : Expression → Bool
  | .flags _ => false
  | _ => true

mutual

def depth : Expression → Nat
  | .set _ inner => 1 + inner.depth
  | .group _ _ inner => 1 + depth inner
  | .repeated inner _ _ => 1 + depth inner
  | .concat [] => 0
  | .concat parts => 1 + depthAll parts
  | .alternatives parts => 1 + depthAll parts
  | _ => 0

def depthAll : List Expression → Nat
  | [] => 0
  | part :: rest => max (depth part) (depthAll rest)

end

end Expression
end YamlDialects

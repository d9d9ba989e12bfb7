import YamlDialects.Pattern.Basic
import YamlDialects.Pattern.Expression.Reader
import YamlDialects.Text.Folding

set_option autoImplicit false

namespace YamlDialects

open Text (CharSet)

structure Flags where
  ignoreCase : Bool := false
  multiLine : Bool := false
  dotAll : Bool := false
  carriageReturn : Bool := false
  unicode : Bool := true
deriving DecidableEq, Inhabited

namespace Flags

def change (flags : Flags) (change : FlagChange) : Flags :=
  { ignoreCase := change.apply .ignoreCase flags.ignoreCase
    multiLine := change.apply .multiLine flags.multiLine
    dotAll := change.apply .dotAll flags.dotAll
    carriageReturn := change.apply .carriageReturn flags.carriageReturn
    unicode := change.apply .unicode flags.unicode }

def fold (flags : Flags) (set : CharSet) : CharSet :=
  if !flags.ignoreCase then set else if flags.unicode then set.anyCase else set.anyAsciiCase

def check? (flags : Flags) (set : CharSet) : Option CharSet :=
  if flags.unicode || set.isAscii then some set else none

/-- Case is ignored before a set is negated. -/
def foldAndNegate? (flags : Flags) (negated : Bool) (set : CharSet) : Option CharSet :=
  let folded := flags.fold set
  flags.check? (if negated then folded.complement else folded)

end Flags

namespace ClassName

def asciiSet (name : String) : CharSet :=
  .ofRanges (match name with
    | "alnum" => [(0x30, 0x39), (0x41, 0x5a), (0x61, 0x7a)]
    | "alpha" => [(0x41, 0x5a), (0x61, 0x7a)]
    | "ascii" => [(0, 0x7f)]
    | "blank" => [(0x9, 0x9), (0x20, 0x20)]
    | "cntrl" => [(0, 0x1f), (0x7f, 0x7f)]
    | "digit" => [(0x30, 0x39)]
    | "graph" => [(0x21, 0x7e)]
    | "lower" => [(0x61, 0x7a)]
    | "print" => [(0x20, 0x7e)]
    | "punct" => [(0x21, 0x2f), (0x3a, 0x40), (0x5b, 0x60), (0x7b, 0x7e)]
    | "space" => [(0x9, 0xd), (0x20, 0x20)]
    | "upper" => [(0x41, 0x5a)]
    | "word" => [(0x30, 0x39), (0x41, 0x5a), (0x5f, 0x5f), (0x61, 0x7a)]
    | _ => [(0x30, 0x39), (0x41, 0x46), (0x61, 0x66)])

/-- The set of a name. Digits, blanks and word characters do not depend on case. -/
def charSet? (flags : Flags) (negated : Bool) : ClassName → Option CharSet
  | .digit => plain (if flags.unicode then .digit else asciiSet "digit")
  | .blank => plain (if flags.unicode then .blank else asciiSet "space")
  | .word => plain (if flags.unicode then .word else asciiSet "word")
  | .ascii name => flags.foldAndNegate? negated (asciiSet name)
  | .property name =>
      if flags.unicode then (CharSet.ofName? name).bind (flags.foldAndNegate? negated) else none
  | .propertyValue name value =>
      if flags.unicode then (CharSet.ofValue? name value).bind (flags.foldAndNegate? negated) else none
where
  plain (set : CharSet) : Option CharSet := flags.check? (if negated then set.complement else set)

end ClassName

namespace SetExpression

def code? (flags : Flags) (written : Literal) : Option Nat :=
  let code := written.char.toNat
  if flags.unicode || code < 0x80 then some code else none

mutual

def charSet? (flags : Flags) : SetExpression → Option CharSet
  | .literal written => (code? flags written).map .single
  | .range first last => do return .range (← code? flags first) (← code? flags last)
  | .named negated name => name.charSet? flags negated
  | .bracketed negated inner => (charSet? flags inner).bind (flags.foldAndNegate? negated)
  | .union items => (ranges? flags items).map .ofRanges
  | .operation kind left right => do
      let left := flags.fold (← charSet? flags left)
      let right := flags.fold (← charSet? flags right)
      match kind with
      | .inter => return left.inter right
      | .diff => return left.diff right
      | .symmDiff => return left.symmDiff right

def ranges? (flags : Flags) : List SetExpression → Option (List (Nat × Nat))
  | [] => some []
  | item :: rest => do return (← charSet? flags item).ranges ++ (← ranges? flags rest)

end

end SetExpression

namespace Expression

def literalPattern? (flags : Flags) (written : Literal) : Option Pattern :=
  let code := written.char.toNat
  if !flags.unicode && written.isByte && code ≥ 0x80 then none
  else some (.one (flags.fold (.single code)))

def dotPattern? (flags : Flags) : Option Pattern :=
  if !flags.unicode then none
  else if flags.dotAll then some (.one (.range 0 CharSet.lastCode))
  else if flags.carriageReturn then some (.one (CharSet.ofRanges [(0xa, 0xa), (0xd, 0xd)]).complement)
  else some (.one (CharSet.single 0xa).complement)

def assertionOf (flags : Flags) : AssertionMark → Assertion
  | .lineStart => if flags.multiLine then .lineStart flags.carriageReturn else .textStart
  | .lineStop => if flags.multiLine then .lineStop flags.carriageReturn else .textStop
  | .textStart => .textStart
  | .textStop => .textStop
  | .word edge => .word edge !flags.unicode

mutual

def pattern? (flags : Flags) : Expression → Option (Pattern × Flags)
  | .literal written => (literalPattern? flags written).map (·, flags)
  | .dot => (dotPattern? flags).map (·, flags)
  | .assertion mark => some (.assertion (assertionOf flags mark), flags)
  | .named negated name => (name.charSet? flags negated).map fun set => (.one set, flags)
  | .set negated inner => do
      let set ← flags.foldAndNegate? negated (← inner.charSet? flags)
      return (.one set, flags)
  | .flags change => some (.empty, flags.change change)
  | .group isCapture change inner => do
      let (pattern, _) ← pattern? (flags.change change) inner
      return (if isCapture then .group pattern else pattern, flags)
  | .repeated inner least most => do
      let (pattern, flags) ← pattern? flags inner
      return (.repeated pattern least most, flags)
  | .concat parts => concat? flags parts
  | .alternatives parts => either? flags parts

def concat? (flags : Flags) : List Expression → Option (Pattern × Flags)
  | [] => some (.empty, flags)
  | [part] => pattern? flags part
  | part :: rest => do
      let (first, flags) ← pattern? flags part
      let (second, flags) ← concat? flags rest
      return (.concat first second, flags)

def either? (flags : Flags) : List Expression → Option (Pattern × Flags)
  | [] => some (.empty, flags)
  | [part] => pattern? flags part
  | part :: rest => do
      let (left, flags) ← pattern? flags part
      let (right, flags) ← either? flags rest
      return (.either left right, flags)

end

end Expression

def Pattern.ofText? (text : String) : Option Pattern := do
  let (pattern, _) ← (← Expression.ofText? text).pattern? {}
  if pattern.size ≤ Pattern.maxSize then return pattern else failure

end YamlDialects

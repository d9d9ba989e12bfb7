import YamlDialects.Yaml.Data.BlockScalar
import YamlDialects.Yaml.Data.Input
import YamlDialects.Yaml.Data.Quoted
import YamlDialects.Yaml.Data.Tag

set_option autoImplicit false

namespace YamlDialects.Yaml.Data

def breaksPlain (c : Char) : Bool :=
  isFlow c || c == '?'

def plainWord? (inFlow : Bool) : List Char → Option (List Char)
  | [] => some []
  | c :: rest =>
      let next := rest.headD nul
      if isSeparating c then some []
      else if inFlow && c == ':' && breaksPlain next then none
      else if (c == ':' && isSeparating next) || (inFlow && isFlow c) then some []
      else (plainWord? inFlow rest).map (c :: ·)

structure PlainScalar where
  text : List Char
  endsLine : Bool

def plainFrom? (inFlow : Bool) (column : Nat) : Nat → List Char → Gap → Input → Option (PlainScalar × Input)
  | 0, _, _, _ => none
  | fuel + 1, text, gap, input =>
      let done := fun text (gap : Gap) input => some (⟨text, gap.isBroken⟩, input)
      if input.atAnyDocumentMark || input.peek == '#' then done text gap input
      else
        match plainWord? inFlow input.rest with
        | none => none
        | some word =>
            let after := input.skip word.length
            let joined := if word.isEmpty then text else text ++ gap.text ++ word
            let held := if word.isEmpty then gap else {}
            if !isGap after.peek && !isLineBreak after.peek then done joined held after
            else
              match Gap.extend? column (after.rest.length + 1) held after with
              | none => none
              | some (gap, next) =>
                  if !inFlow && next.column < column then done joined gap next
                  else plainFrom? inFlow column fuel joined gap next

def plain? (inFlow : Bool) (indent : Int) (input : Input) : Option (PlainScalar × Input) :=
  plainFrom? inFlow (indent + 1).toNat (input.rest.length + 1) [] {} input

end YamlDialects.Yaml.Data

namespace YamlDialects.Yaml.Data

structure KeyStart where
  number : Nat
  mark : Mark
  isRequired : Bool
deriving DecidableEq, Inhabited

/-- The state of the lexer. There is one possible key for the block level and one for each open flow
collection, the innermost first. -/
structure Lexer where
  input : Input
  tokens : Array Token := #[]
  indent : Int := -1
  outerIndents : List Int := []
  keyAllowed : Bool := true
  key : Option KeyStart := none
  outerKeys : List (Option KeyStart) := []
deriving Inhabited

namespace Lexer

def inFlow (lexer : Lexer) : Bool :=
  !lexer.outerKeys.isEmpty

def push (lexer : Lexer) (token : Token) : Lexer :=
  { lexer with tokens := lexer.tokens.push token }

def insertAt (lexer : Lexer) (number : Nat) (token : Token) : Lexer :=
  { lexer with tokens := lexer.tokens.insertIdxIfInBounds number token }

def allowKey (lexer : Lexer) (keyAllowed : Bool) : Lexer :=
  { lexer with keyAllowed }

def skip (lexer : Lexer) (count : Nat) : Lexer :=
  { lexer with input := lexer.input.skip count }

def removeKey? (lexer : Lexer) : Option Lexer :=
  if lexer.key.any (·.isRequired) then none else some { lexer with key := none }

def saveKey? (lexer : Lexer) : Option Lexer :=
  if lexer.keyAllowed then
    lexer.removeKey?.map fun lexer =>
      let isRequired := !lexer.inFlow && lexer.indent == lexer.input.column
      { lexer with key := some ⟨lexer.tokens.size, lexer.input.mark, isRequired⟩ }
  else some lexer

def isStale (mark : Mark) (key : KeyStart) : Bool :=
  key.mark.line < mark.line || key.mark.index + 1024 < mark.index

def dropStale? (mark : Mark) : Option KeyStart → Option (Option KeyStart)
  | none => some none
  | some key =>
      if !isStale mark key then some (some key) else if key.isRequired then none else some none

def dropStaleKeys? (lexer : Lexer) : Option Lexer := do
  let key ← dropStale? lexer.input.mark lexer.key
  let outerKeys ← lexer.outerKeys.mapM (dropStale? lexer.input.mark)
  return { lexer with key, outerKeys }

/-- Opens a block at a column; its token comes at the end or, for a key, before the key. -/
def rollIndent (lexer : Lexer) (column : Nat) (number : Option Nat) (token : Token) : Lexer :=
  if lexer.inFlow || (column : Int) ≤ lexer.indent then lexer
  else
    let deeper := { lexer with indent := column, outerIndents := lexer.indent :: lexer.outerIndents }
    match number with
    | some number => deeper.insertAt number token
    | none => deeper.push token

def closeBlocks (column : Int) : List Int → Lexer → Lexer
  | [], lexer => lexer
  | outer :: others, lexer =>
      if lexer.indent > column then
        closeBlocks column others ({ lexer with indent := outer, outerIndents := others }.push .blockEnd)
      else lexer

def unrollIndent (lexer : Lexer) (column : Int) : Lexer :=
  if lexer.inFlow then lexer else closeBlocks column lexer.outerIndents lexer

def skipBlank : Nat → Lexer → Lexer
  | 0, lexer => lexer
  | fuel + 1, lexer =>
      let start := lexer.input
      let start := if start.column == 0 && isByteOrderMark start.peek then start.skip 1 else start
      let isBlank := fun c => c == ' ' || ((lexer.inFlow || !lexer.keyAllowed) && c == '\t')
      let input := (start.skipWhile isBlank).skipComment
      if isLineBreak input.peek then
        let keyAllowed := lexer.keyAllowed || !lexer.inFlow
        skipBlank fuel { lexer with input := input.lineBreak.2, keyAllowed }
      else { lexer with input }

def streamEnd? (lexer : Lexer) : Option Lexer := do
  let lexer ← (lexer.unrollIndent (-1)).removeKey?
  return lexer.push .streamEnd

def documentMark? (token : Token) (lexer : Lexer) : Option Lexer := do
  let lexer ← (lexer.unrollIndent (-1)).removeKey?
  return ((lexer.allowKey false).push token).skip 3

def directive? (lexer : Lexer) : Option Lexer := do
  let lexer ← (lexer.unrollIndent (-1)).removeKey?
  let (token, input) ← Data.directive? lexer.input
  return { (lexer.allowKey false).push token with input }

def flowStart? (token : Token) (lexer : Lexer) : Option Lexer := do
  let lexer ← lexer.saveKey?
  let inner := { lexer with key := none, outerKeys := lexer.key :: lexer.outerKeys }
  return ((inner.allowKey true).push token).skip 1

def flowEnd? (token : Token) (lexer : Lexer) : Option Lexer := do
  let lexer ← lexer.removeKey?
  let outer := match lexer.outerKeys with
    | key :: outerKeys => { lexer with key, outerKeys }
    | [] => lexer
  return ((outer.allowKey false).push token).skip 1

def flowEntry? (lexer : Lexer) : Option Lexer := do
  let lexer ← lexer.removeKey?
  return ((lexer.allowKey true).push .flowEntry).skip 1

def openBlock? (token : Token) (lexer : Lexer) : Option Lexer :=
  if lexer.inFlow then some lexer
  else if lexer.keyAllowed then some (lexer.rollIndent lexer.input.column none token)
  else none

def blockEntry? (lexer : Lexer) : Option Lexer := do
  let lexer ← (← lexer.openBlock? .blockSequenceStart).removeKey?
  return ((lexer.allowKey true).push .blockEntry).skip 1

def explicitKey? (lexer : Lexer) : Option Lexer := do
  let lexer ← (← lexer.openBlock? .blockMappingStart).removeKey?
  return ((lexer.allowKey !lexer.inFlow).push .key).skip 1

def value? (lexer : Lexer) : Option Lexer := do
  let lexer ← match lexer.key with
    | some key =>
        let keyed := (lexer.insertAt key.number .key).rollIndent key.mark.column (some key.number) .blockMappingStart
        some { keyed with key := none, keyAllowed := false }
    | none => (lexer.openBlock? .blockMappingStart).map fun lexer => lexer.allowKey !lexer.inFlow
  return (lexer.push .value).skip 1

def nodePart? (read : Input → Option (Token × Input)) (lexer : Lexer) : Option Lexer := do
  let lexer ← lexer.saveKey?
  let (token, input) ← read lexer.input
  return { (lexer.allowKey false).push token with input }

def blockScalar? (lexer : Lexer) : Option Lexer := do
  let lexer ← lexer.removeKey?
  let (text, input) ← Data.blockScalar? lexer.indent lexer.input
  return { (lexer.allowKey true).push (.scalar false (String.ofList text)) with input }

def quoted? (lexer : Lexer) : Option Lexer :=
  lexer.nodePart? fun input => (Data.quoted? input).map fun (text, input) => (.scalar false (String.ofList text), input)

def plain? (lexer : Lexer) : Option Lexer := do
  let lexer ← lexer.saveKey?
  let (scalar, input) ← Data.plain? lexer.inFlow lexer.indent lexer.input
  return { (lexer.allowKey scalar.endsLine).push (.scalar true (String.ofList scalar.text)) with input }

def isIndicator (c : Char) : Bool :=
  "-?:,[]\x7b\x7d#&*!|>'\"%@`".toList.contains c

def startsPlain (inFlow : Bool) (c next : Char) : Bool :=
  (!isSeparating c && !isIndicator c) || (c == '-' && !isGap next) ||
    (!inFlow && (c == '?' || c == ':') && !isSeparating next)

def step? (lexer : Lexer) : Option Lexer :=
  let input := lexer.input
  let isAlone := isSeparating (input.peekAt 1)
  if input.column == 0 && input.peek == '%' then lexer.directive?
  else if input.atDocumentMark '-' then lexer.documentMark? .documentStart
  else if input.atDocumentMark '.' then lexer.documentMark? .documentEnd
  else
    match input.peek with
    | '[' => lexer.flowStart? .flowSequenceStart
    | '\x7b' => lexer.flowStart? .flowMappingStart
    | ']' => lexer.flowEnd? .flowSequenceEnd
    | '\x7d' => lexer.flowEnd? .flowMappingEnd
    | ',' => lexer.flowEntry?
    | '*' => lexer.nodePart? fun input => (name? input).map fun (name, input) => (.reference name, input)
    | '&' => lexer.nodePart? fun input => (name? input).map fun (name, input) => (.anchor name, input)
    | '!' => lexer.nodePart? (tag? lexer.inFlow)
    | '\'' => lexer.quoted?
    | '"' => lexer.quoted?
    | c =>
        if c == '-' && isAlone then lexer.blockEntry?
        else if c == '?' && (lexer.inFlow || isAlone) then lexer.explicitKey?
        else if c == ':' && (lexer.inFlow || isAlone) then lexer.value?
        else if (c == '|' || c == '>') && !lexer.inFlow then lexer.blockScalar?
        else if startsPlain lexer.inFlow c (input.peekAt 1) then lexer.plain?
        else none

def run? : Nat → Lexer → Option Lexer
  | 0, _ => none
  | fuel + 1, lexer => do
      let lexer ← (skipBlank (lexer.input.rest.length + 1) lexer).dropStaleKeys?
      let lexer := lexer.unrollIndent lexer.input.column
      if isEnd lexer.input.peek then lexer.streamEnd? else run? fuel (← lexer.step?)

end Lexer

def tokens? (text : String) : Option (List Token) :=
  let chars := text.toList
  if chars.all isAllowed then (Lexer.run? (chars.length + 1) { input := { rest := chars } }).map (·.tokens.toList)
  else none

end YamlDialects.Yaml.Data

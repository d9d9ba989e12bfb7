import YamlDialects.Yaml.Chars
import YamlDialects.Yaml.Token.Basic

/-!
The state of tokenizing: what is left of the text, where it stands, and the tokens found so far, with the
opening and closing of indented blocks.

A simple key is only known as a key when its colon comes. The place its tokens would take is therefore
kept as a number in the list of all tokens, and the key tokens are put there afterwards.
-/

set_option autoImplicit false

namespace YamlDialects.Yaml

structure SimpleKey where
  required : Bool
  number : Nat
  mark : Mark
deriving DecidableEq, Inhabited

structure Indent where
  outer : Int
  isBlock : Bool
deriving DecidableEq, Inhabited

/-- `keys` has one place for each level of flow collections, the innermost first; `pairs` tells for
each open flow sequence whether one of its entries is a pair without braces. -/
structure Lexer where
  rest : List Char
  mark : Mark := ⟨0, 1, 0⟩
  atLineStart : Bool := true
  tokens : Array Token := #[]
  taken : Nat := 0
  indent : Int := -1
  indents : List Indent := []
  flowLevel : Nat := 0
  keyAllowed : Bool := true
  keys : List (Option SimpleKey) := [none]
  adjacentValueAt : Nat := 0
  flowMappingStarted : Bool := false
  pairs : List Bool := []
deriving Inhabited

namespace Lexer

def peek (lexer : Lexer) : Char :=
  lexer.rest.headD nul

def peekAt (lexer : Lexer) (distance : Nat) : Char :=
  lexer.rest.getD distance nul

def column (lexer : Lexer) : Int :=
  lexer.mark.column

def fail {α : Type} (lexer : Lexer) (cause : Cause) : Except Fault α :=
  .error ⟨cause, lexer.mark⟩

def advance (lexer : Lexer) (count : Nat) : Lexer :=
  { lexer with
    rest := lexer.rest.drop count
    mark := ⟨lexer.mark.index + count, lexer.mark.line, lexer.mark.column + count⟩ }

def advanceContent (lexer : Lexer) (count : Nat) : Lexer :=
  { lexer.advance count with atLineStart := false }

def skipBreak (lexer : Lexer) : Lexer :=
  let length :=
    if lexer.peek == '\r' && lexer.peekAt 1 == '\n' then 2
    else if isBreak lexer.peek then 1
    else 0
  if length = 0 then lexer
  else
    { lexer with
      rest := lexer.rest.drop length
      mark := ⟨lexer.mark.index + length, lexer.mark.line + 1, 0⟩
      atLineStart := true }

def push (lexer : Lexer) (span : Span) (kind : TokenKind) : Lexer :=
  { lexer with tokens := lexer.tokens.push ⟨span, kind⟩ }

def insertAt (lexer : Lexer) (number : Nat) (span : Span) (kind : TokenKind) : Lexer :=
  { lexer with tokens := lexer.tokens.insertIdxIfInBounds number ⟨span, kind⟩ }

def allowKey (lexer : Lexer) : Lexer :=
  { lexer with keyAllowed := true }

def forbidKey (lexer : Lexer) : Lexer :=
  { lexer with keyAllowed := false }

def setKey (lexer : Lexer) (key : Option SimpleKey) : Lexer :=
  { lexer with keys := key :: lexer.keys.tail }

def key? (lexer : Lexer) : Option SimpleKey :=
  lexer.keys.head?.join

def saveKey (lexer : Lexer) : Lexer :=
  if lexer.keyAllowed then
    let required := lexer.flowLevel == 0 && lexer.indent == lexer.column && lexer.indents.head?.any (·.isBlock)
    lexer.setKey (some ⟨required, lexer.tokens.size, lexer.mark⟩)
  else lexer

def removeKey (lexer : Lexer) : Except Fault Lexer :=
  if lexer.key?.any (·.required) then lexer.fail .keyExpected else .ok (lexer.setKey none)

def isStale (lexer : Lexer) (key : SimpleKey) : Bool :=
  lexer.flowLevel == 0 && (key.mark.line < lexer.mark.line || key.mark.index + 1024 < lexer.mark.index)

def dropStaleKeys (lexer : Lexer) : Except Fault Lexer :=
  if lexer.keys.any fun key => key.any fun key => lexer.isStale key && key.required then
    lexer.fail .keyWithoutColon
  else .ok { lexer with keys := lexer.keys.map fun key => key.filter fun key => !lexer.isStale key }

end Lexer
end YamlDialects.Yaml

namespace YamlDialects.Yaml.Lexer

def closeIndents (column : Int) (span : Span) : Int → List Indent → Array Token → Int × List Indent × Array Token
  | indent, [], tokens => (indent, [], tokens)
  | indent, open_ :: outer, tokens =>
      if column < indent then
        closeIndents column span open_.outer outer (if open_.isBlock then tokens.push ⟨span, .blockEnd⟩ else tokens)
      else (indent, open_ :: outer, tokens)

def unrollIndent (lexer : Lexer) (column : Int) : Lexer :=
  if lexer.flowLevel > 0 then lexer
  else
    let (indent, indents, tokens) :=
      closeIndents column (.empty lexer.mark) lexer.indent lexer.indents lexer.tokens
    { lexer with indent := indent, indents := indents, tokens := tokens }

def dropPrepared (lexer : Lexer) : Lexer :=
  match lexer.indents with
  | open_ :: outer => if open_.isBlock then lexer else { lexer with indent := open_.outer, indents := outer }
  | [] => lexer

/-- Opens a block at a column, unless one is open there, and puts its start token at the end or at the
number of a token. -/
def rollIndent (lexer : Lexer) (column : Nat) (number : Option Nat) (kind : TokenKind) (mark : Mark) : Lexer :=
  if lexer.flowLevel > 0 then lexer
  else
    let lexer := if lexer.indent ≤ column then lexer.dropPrepared else lexer
    if lexer.indent < column then
      let opened := { lexer with indents := ⟨lexer.indent, true⟩ :: lexer.indents, indent := column }
      match number with
      | some number => opened.insertAt number (.empty mark) kind
      | none => opened.push (.empty mark) kind
    else lexer

def rollOneColumn (lexer : Lexer) : Lexer :=
  if lexer.flowLevel == 0 && lexer.indents.head?.any (·.isBlock) then
    { lexer with indents := ⟨lexer.indent, false⟩ :: lexer.indents, indent := lexer.indent + 1 }
  else lexer

def closePrepared : Int → List Indent → Int × List Indent
  | indent, [] => (indent, [])
  | indent, open_ :: outer => if open_.isBlock then (indent, open_ :: outer) else closePrepared open_.outer outer

def unrollPrepared (lexer : Lexer) : Lexer :=
  let (indent, indents) := closePrepared lexer.indent lexer.indents
  { lexer with indent := indent, indents := indents }

end YamlDialects.Yaml.Lexer

namespace YamlDialects.Yaml.Lexer

def skipWhile (lexer : Lexer) (test : Char → Bool) : Lexer :=
  lexer.advance (lexer.rest.takeWhile test).length

def takeWhile (lexer : Lexer) (test : Char → Bool) : List Char × Lexer :=
  (lexer.rest.takeWhile test, lexer.skipWhile test)

def skipComment (lexer : Lexer) : Lexer :=
  lexer.skipWhile fun c => !isBreakOrEnd c

structure Gaps where
  tabs : Bool
  spaces : Bool

def skipToLineEnd (lexer : Lexer) : Except Fault (Gaps × Lexer) :=
  let (gap, after) := lexer.takeWhile isGap
  let gaps : Gaps := ⟨gap.contains '\t', gap.contains ' '⟩
  if after.peek == '#' then
    if gap.isEmpty then after.fail .commentGap else .ok (gaps, after.skipComment)
  else .ok (gaps, after)

def atTabIndentation (lexer : Lexer) : Bool :=
  lexer.peek == '\t' && !lexer.indents.isEmpty && lexer.atLineStart && lexer.column < lexer.indent

def skipToTokenFrom : Nat → Lexer → Except Fault Lexer
  | 0, lexer => .ok lexer
  | fuel + 1, lexer =>
      if lexer.atTabIndentation then
        match lexer.skipToLineEnd with
        | .error fault => .error fault
        | .ok (_, lexer) =>
            if isBreakOrEnd lexer.peek then skipToTokenFrom fuel lexer else lexer.fail .tabIndentation
      else if isGap lexer.peek then skipToTokenFrom fuel (lexer.advance 1)
      else if isBreak lexer.peek then
        let lexer := lexer.skipBreak
        skipToTokenFrom fuel (if lexer.flowLevel = 0 then lexer.allowKey else lexer)
      else if lexer.peek == '#' then skipToTokenFrom fuel lexer.skipComment
      else .ok lexer

def skipToToken (lexer : Lexer) : Except Fault Lexer :=
  skipToTokenFrom (lexer.rest.length + 1) lexer

def skipSpacesFrom : Nat → Bool → Lexer → Bool × Lexer
  | 0, found, lexer => (found, lexer)
  | fuel + 1, found, lexer =>
      if lexer.peek == ' ' then skipSpacesFrom fuel true (lexer.advance 1)
      else if isBreak lexer.peek then
        let lexer := lexer.skipBreak
        skipSpacesFrom fuel true (if lexer.flowLevel = 0 then lexer.allowKey else lexer)
      else if lexer.peek == '#' then skipSpacesFrom fuel found lexer.skipComment
      else (found, lexer)

def skipSpaces (lexer : Lexer) : Except Fault Lexer :=
  let (found, lexer) := skipSpacesFrom (lexer.rest.length + 1) false lexer
  if found then .ok lexer else lexer.fail .spaceExpected

end YamlDialects.Yaml.Lexer

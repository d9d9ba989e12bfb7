import YamlDialects.Yaml.Token.BlockScalar
import YamlDialects.Yaml.Token.Plain
import YamlDialects.Yaml.Token.Quoted
import YamlDialects.Yaml.Token.Tag

/-!
Finding the next token. Tokens are found ahead of need only where one of them may still turn out to
start a key.
-/

set_option autoImplicit false

namespace YamlDialects.Yaml.Lexer

def maxFlowLevel : Nat := 255

def streamEnd (lexer : Lexer) : Except Fault Lexer :=
  let lexer :=
    if lexer.mark.column == 0 then lexer
    else { lexer with mark := ⟨lexer.mark.index, lexer.mark.line + 1, 0⟩ }
  if lexer.keys.any fun key => key.any (·.required) then lexer.fail .keyExpected
  else
    let lexer := ({ lexer with keys := lexer.keys.map fun _ => none }).unrollIndent (-1)
    .ok (lexer.forbidKey.push (.empty lexer.mark) .streamEnd)

def documentMark (kind : TokenKind) (lexer : Lexer) : Except Fault Lexer := do
  let lexer ← (lexer.unrollIndent (-1)).removeKey
  let after := lexer.forbidKey.advanceContent 3
  return after.push ⟨lexer.mark, after.mark⟩ kind

def documentEnd (lexer : Lexer) : Except Fault Lexer := do
  let lexer ← documentMark .documentEnd lexer
  let (_, lexer) ← lexer.skipToLineEnd
  if isBreakOrEnd lexer.peek then return lexer else lexer.fail .contentAfterDocumentEnd

def endPair (lexer : Lexer) : Lexer :=
  match lexer.pairs with
  | true :: outer =>
      { lexer with flowMappingStarted := false, pairs := false :: outer }.push (.empty lexer.mark) .flowMappingEnd
  | _ => lexer

def flowStart (isMapping : Bool) (lexer : Lexer) : Except Fault Lexer := do
  let mark := lexer.mark
  let lexer := lexer.saveKey.rollOneColumn
  if lexer.flowLevel ≥ maxFlowLevel then lexer.fail .flowNesting
  else
    let lexer := { lexer with flowLevel := lexer.flowLevel + 1, keys := none :: lexer.keys }
    let lexer := lexer.allowKey.advanceContent 1
    let lexer :=
      if isMapping then { lexer with flowMappingStarted := true } else { lexer with pairs := false :: lexer.pairs }
    let (_, lexer) ← lexer.skipToLineEnd
    return lexer.push ⟨mark, lexer.mark⟩ (if isMapping then .flowMappingStart else .flowSequenceStart)

def leaveFlow (lexer : Lexer) : Lexer :=
  if lexer.flowLevel > 0 then { lexer with flowLevel := lexer.flowLevel - 1, keys := lexer.keys.tail } else lexer

def flowEnd (isMapping : Bool) (lexer : Lexer) : Except Fault Lexer := do
  let mark := lexer.mark
  let lexer ← lexer.removeKey
  let lexer := lexer.leaveFlow.forbidKey
  let lexer := if isMapping then lexer else { lexer.endPair with pairs := lexer.pairs.tail }
  let (_, lexer) ← (lexer.advanceContent 1).skipToLineEnd
  let lexer := if lexer.flowLevel > 0 then { lexer with adjacentValueAt := lexer.mark.index } else lexer
  return lexer.push ⟨mark, lexer.mark⟩ (if isMapping then .flowMappingEnd else .flowSequenceEnd)

def flowEntry (lexer : Lexer) : Except Fault Lexer := do
  let mark := lexer.mark
  let lexer ← lexer.removeKey
  let (_, lexer) ← (lexer.allowKey.endPair.advanceContent 1).skipToLineEnd
  return lexer.push ⟨mark, lexer.mark⟩ .flowEntry

/-- An anchor or a tag at the very start of the line before a dash at the start of its line. -/
def misplacedAnchor? (lexer : Lexer) : Option Mark :=
  if lexer.taken < lexer.tokens.size && lexer.mark.column == 0 && lexer.indent > -1 then
    match lexer.tokens.back? with
    | some ⟨span, .anchor _⟩ => if span.start.column == 0 then some span.start else none
    | some ⟨span, .tag _ _⟩ => if span.start.column == 0 then some span.start else none
    | _ => none
  else none

def blockEntry (lexer : Lexer) : Except Fault Lexer :=
  if lexer.flowLevel > 0 then lexer.fail .dashInFlow
  else if !lexer.keyAllowed then lexer.fail .itemNotAllowed
  else
    match lexer.misplacedAnchor? with
    | some mark => .error ⟨.anchorIndentation, mark⟩
    | none => do
        let mark := lexer.mark
        let lexer := (lexer.advanceContent 1).rollIndent mark.column none .blockSequenceStart mark
        let (gaps, lexer) ← lexer.skipToLineEnd
        if gaps.tabs && lexer.peek == '-' && isGapOrEnd (lexer.peekAt 1) then lexer.fail .dashGap
        else
          let lexer := if isBreak lexer.peek || isFlow lexer.peek then lexer.rollOneColumn else lexer
          let lexer ← lexer.removeKey
          return lexer.allowKey.push (.empty lexer.mark) .blockEntry

def explicitKey (lexer : Lexer) : Except Fault Lexer := do
  let mark := lexer.mark
  let inFlow := lexer.flowLevel > 0
  if !inFlow && !lexer.keyAllowed then lexer.fail .keyNotAllowed
  else
    let lexer :=
      if inFlow then { lexer with flowMappingStarted := true }
      else lexer.rollIndent mark.column none .blockMappingStart mark
    let lexer ← lexer.removeKey
    let lexer := if inFlow then lexer.forbidKey else lexer.allowKey
    let lexer ← (lexer.advanceContent 1).skipSpaces
    if lexer.peek == '\t' then lexer.fail .tabAfterKeyMark
    else return lexer.push ⟨mark, lexer.mark⟩ .key

/-- A tab may follow a colon only if what comes next is no plain word. -/
def afterColon (lexer : Lexer) : Except Fault Lexer := do
  if lexer.peek == '\t' then
    let (gaps, lexer) ← lexer.skipToLineEnd
    if !gaps.spaces && (lexer.peek == '-' || isNameChar lexer.peek) then lexer.fail .colonGap else return lexer
  else return lexer

def valueOfKey (key : SimpleKey) (isPair : Bool) (mark : Mark) (lexer : Lexer) : Except Fault Lexer :=
  if isPair && key.mark.line < mark.line then .error ⟨.colonPlace, mark⟩
  else
    let lexer := lexer.insertAt key.number (.empty key.mark) .key
    let lexer := if isPair then lexer.insertAt key.number (.empty key.mark) .flowMappingStart else lexer
    let lexer := lexer.rollIndent key.mark.column (some key.number) .blockMappingStart key.mark
    .ok (lexer.rollOneColumn.setKey none).forbidKey

def valueAlone (isPair : Bool) (mark : Mark) (lexer : Lexer) : Except Fault Lexer :=
  let lexer := if isPair then lexer.push (.empty mark) .flowMappingStart else lexer
  if lexer.flowLevel > 0 then .ok lexer.rollOneColumn.forbidKey
  else if !lexer.keyAllowed then .error ⟨.valueNotAllowed, mark⟩
  else .ok (lexer.rollIndent mark.column none .blockMappingStart mark).rollOneColumn.allowKey

def value (lexer : Lexer) : Except Fault Lexer := do
  let mark := lexer.mark
  let key := lexer.key?
  let isPair := !lexer.pairs.isEmpty && !lexer.flowMappingStarted
  let lexer := if isPair then { lexer with pairs := true :: lexer.pairs.tail } else lexer
  let lexer ← (lexer.advanceContent 1).afterColon
  let lexer ← match key with
    | some key => valueOfKey key isPair mark lexer
    | none => valueAlone isPair mark lexer
  return lexer.push (.empty mark) .value

def flowValue (lexer : Lexer) : Except Fault Lexer :=
  let next := lexer.peekAt 1
  if lexer.mark.index != lexer.adjacentValueAt && (next == '[' || next == '\x7b') then lexer.fail .colonBeforeFlow
  else lexer.value

def tokenAt (lexer : Lexer) (c next : Char) : Except Fault Lexer :=
  let inFlow := lexer.flowLevel > 0
  let gap := isGapOrEnd next
  if c == '[' then lexer.flowStart false
  else if c == '\x7b' then lexer.flowStart true
  else if c == ']' then lexer.flowEnd false
  else if c == '\x7d' then lexer.flowEnd true
  else if c == ',' then lexer.flowEntry
  else if c == '-' && gap then lexer.blockEntry
  else if c == '?' && gap then lexer.explicitKey
  else if c == ':' && gap then lexer.value
  else if c == ':' && inFlow && (isFlow next || lexer.mark.index == lexer.adjacentValueAt) then lexer.flowValue
  else if c == '*' then lexer.anchor true
  else if c == '&' then lexer.anchor false
  else if c == '!' then lexer.tag
  else if c == '|' && !inFlow then lexer.blockScalar false
  else if c == '>' && !inFlow then lexer.blockScalar true
  else if c == '\'' || c == '"' then lexer.quoted c
  else if c == '%' || c == '@' || c == '`' then lexer.fail (.unexpectedChar c)
  else lexer.plain

def findToken (lexer : Lexer) : Except Fault Lexer := do
  let lexer ← lexer.skipToToken
  let lexer ← lexer.dropStaleKeys
  let lexer := lexer.unrollIndent lexer.column
  let atStart := lexer.mark.column == 0
  if isEnd lexer.peek then lexer.streamEnd
  else if atStart && lexer.peek == '%' then lexer.directive
  else if atStart && isDocumentMark '-' lexer.rest then lexer.documentMark .documentStart
  else if atStart && isDocumentMark '.' lexer.rest then lexer.documentEnd
  else if lexer.column < lexer.indent then lexer.fail .indentation
  else lexer.tokenAt lexer.peek (lexer.peekAt 1)

def keyPending (lexer : Lexer) : Bool :=
  lexer.keys.any fun key => key.any (·.number == lexer.taken)

def fill : Nat → Lexer → Except Fault Lexer
  | 0, lexer => .ok lexer
  | fuel + 1, lexer =>
      if lexer.taken ≥ lexer.tokens.size then
        match lexer.findToken with
        | .error fault => .error fault
        | .ok lexer => fill fuel lexer
      else
        match lexer.dropStaleKeys with
        | .error fault => .error fault
        | .ok lexer =>
            if lexer.keyPending then
              match lexer.findToken with
              | .error fault => .error fault
              | .ok lexer => fill fuel lexer
            else .ok lexer

def next (lexer : Lexer) : Except Fault (Token × Lexer) :=
  match fill (lexer.rest.length + 2) lexer with
  | .error fault => .error fault
  | .ok lexer => .ok ((lexer.tokens[lexer.taken]?).getD ⟨.empty lexer.mark, .streamEnd⟩, lexer)

def take (lexer : Lexer) : Lexer :=
  { lexer with taken := lexer.taken + 1 }

def start (chars : List Char) : Lexer :=
  { rest := chars }

end YamlDialects.Yaml.Lexer

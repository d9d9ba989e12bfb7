import YamlDialects.Yaml.Token.Lexer

set_option autoImplicit false

namespace YamlDialects.Yaml.Lexer

inductive Chomping where
  | clip
  | strip
  | keep
deriving DecidableEq

def chomping? (c : Char) : Option Chomping :=
  if c == '+' then some .keep else if c == '-' then some .strip else none

def increment (mark : Mark) (lexer : Lexer) : Except Fault (Nat × Lexer) :=
  let c := lexer.peek
  if c == '0' then .error ⟨.zeroIndentIndicator, mark⟩
  else if c.isDigit then .ok (c.toNat - 48, lexer.advanceContent 1)
  else .ok (0, lexer)

def blockHeader (mark : Mark) (lexer : Lexer) : Except Fault (Chomping × Nat × Lexer) := do
  match chomping? lexer.peek with
  | some chomping =>
      let (count, lexer) ← increment mark (lexer.advanceContent 1)
      return (chomping, count, lexer)
  | none =>
      let (count, lexer) ← increment mark lexer
      match chomping? lexer.peek with
      | some chomping => return (chomping, count, lexer.advanceContent 1)
      | none => return (.clip, count, lexer)

def skipBlockIndent (indent : Nat) : Nat → Nat → Lexer → Nat × Lexer
  | 0, breaks, lexer => (breaks, lexer)
  | fuel + 1, breaks, lexer =>
      let spaces := ((lexer.rest.take (indent - lexer.mark.column)).takeWhile (· == ' ')).length
      let lexer := lexer.advance spaces
      if isBreak lexer.peek then skipBlockIndent indent fuel (breaks + 1) lexer.skipBreak
      else (breaks, lexer)

def skipBlockStart : Nat → Nat → Nat → Lexer → Nat × Nat × Lexer
  | 0, widest, breaks, lexer => (widest, breaks, lexer)
  | fuel + 1, widest, breaks, lexer =>
      let lexer := lexer.skipWhile (· == ' ')
      let widest := max widest lexer.mark.column
      if isBreak lexer.peek then skipBlockStart fuel widest (breaks + 1) lexer.skipBreak
      else (widest, breaks, lexer)

def blockStart (count : Nat) (lexer : Lexer) : Nat × Nat × Lexer :=
  if count > 0 then
    let indent := (max lexer.indent 0).toNat + count
    let (breaks, lexer) := skipBlockIndent indent (lexer.rest.length + 1) 0 lexer
    (indent, breaks, lexer)
  else
    let (widest, breaks, after) := skipBlockStart (lexer.rest.length + 1) 0 0 lexer
    let indent := max widest (lexer.indent + 1).toNat
    (if lexer.indent > 0 then max indent 1 else indent, breaks, after)

structure BlockText where
  found : List Char
  broken : Bool
  further : Nat
  lastIndented : Bool

/-- Two folded lines are joined by a space unless one of them starts with a blank. -/
def BlockText.joint (text : BlockText) (folded indented : Bool) : List Char :=
  if folded && text.broken && !text.lastIndented && !indented then
    if text.further = 0 then [ ' '] else List.replicate text.further '\n'
  else List.replicate (text.further + (if text.broken then 1 else 0)) '\n'

def blockLines (folded : Bool) (indent : Nat) : Nat → BlockText → Lexer → BlockText × Lexer
  | 0, text, lexer => (text, lexer)
  | fuel + 1, text, lexer =>
      if lexer.mark.column != indent || isEnd lexer.peek || (indent == 0 && isDocumentMark '.' lexer.rest) then
        (text, lexer)
      else
        let indented := isGap lexer.peek
        let (line, lexer) := lexer.takeWhile fun c => !isBreakOrEnd c
        let found := line.reverse ++ (text.joint folded indented ++ text.found)
        if isEnd lexer.peek then (⟨found, false, 0, indented⟩, lexer)
        else
          let (further, lexer) := skipBlockIndent indent (lexer.rest.length + 1) 0 lexer.skipBreak
          blockLines folded indent fuel ⟨found, true, further, indented⟩ lexer

def BlockText.chomped (text : BlockText) (chomping : Chomping) (indent : Nat) (lexer : Lexer) : List Char :=
  let last := if text.broken then [ '\n'] else []
  let atEnd := if isEnd lexer.peek && max indent 1 ≤ lexer.mark.column then [ '\n'] else []
  match chomping with
  | .strip => text.found
  | .clip => atEnd ++ (last ++ text.found)
  | .keep => List.replicate text.further '\n' ++ (atEnd ++ (last ++ text.found))

def emptyBlock (chomping : Chomping) (sameLine : Bool) (breaks : Nat) : List Char :=
  if sameLine then []
  else
    match chomping with
    | .strip => []
    | .clip => [ '\n']
    | .keep => List.replicate (max breaks 1) '\n'

def blockScalar (folded : Bool) (lexer : Lexer) : Except Fault Lexer := do
  let mark := lexer.mark
  let style := if folded then ScalarStyle.folded else .literal
  let lexer := (lexer.saveKey.allowKey.advanceContent 1).unrollPrepared
  let (chomping, count, lexer) ← blockHeader mark lexer
  let (_, lexer) ← lexer.skipToLineEnd
  if !isBreakOrEnd lexer.peek then .error ⟨.blockHeaderEnd, mark⟩
  else
    let lexer := lexer.skipBreak
    if lexer.peek == '\t' then .error ⟨.tabBeforeBlock, mark⟩
    else
      let (indent, breaks, lexer) := blockStart count lexer
      if isEnd lexer.peek then
        let text := emptyBlock chomping (lexer.mark.line == mark.line) breaks
        return lexer.push ⟨mark, lexer.mark⟩ (.scalar style (String.ofList text))
      else if lexer.mark.column < indent && lexer.indent < lexer.column then lexer.fail .blockIndentation
      else
        let start := lexer.mark
        let (text, lexer) := blockLines folded indent (lexer.rest.length + 2) ⟨[], false, breaks, false⟩ lexer
        let content := (text.chomped chomping indent lexer).reverse
        return lexer.push ⟨start, lexer.mark⟩ (.scalar style (String.ofList content))

end YamlDialects.Yaml.Lexer

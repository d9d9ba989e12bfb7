import YamlDialects.Yaml.Token.Lexer
import YamlDialects.Yaml.Token.Tag

set_option autoImplicit false

namespace YamlDialects.Yaml.Lexer

def letterEscape? (c : Char) : Option Char :=
  match c with
  | '0' => some nul
  | 'a' => some (Char.ofNat 0x07)
  | 'b' => some (Char.ofNat 0x08)
  | 't' => some '\t'
  | '\t' => some '\t'
  | 'n' => some '\n'
  | 'v' => some (Char.ofNat 0x0b)
  | 'f' => some (Char.ofNat 0x0c)
  | 'r' => some '\r'
  | 'e' => some (Char.ofNat 0x1b)
  | ' ' => some ' '
  | '"' => some '"'
  | '/' => some '/'
  | '\\' => some '\\'
  | 'N' => some (Char.ofNat 0x85)
  | '_' => some (Char.ofNat 0xa0)
  | 'L' => some (Char.ofNat 0x2028)
  | 'P' => some (Char.ofNat 0x2029)
  | _ => none

def codeEscape? (c : Char) : Option Nat :=
  match c with
  | 'x' => some 2
  | 'u' => some 4
  | 'U' => some 8
  | _ => none

def escape (mark : Mark) (lexer : Lexer) : Except Fault (Char × Lexer) :=
  match letterEscape? (lexer.peekAt 1), codeEscape? (lexer.peekAt 1) with
  | some c, _ => .ok (c, lexer.advanceContent 2)
  | none, some count =>
      let lexer := lexer.advanceContent 2
      let digits := (List.range count).map lexer.peekAt
      if digits.all isHex then
        match char? (digits.foldl (fun code c => 16 * code + hexDigit c) 0) with
        | some c => .ok (c, lexer.advanceContent count)
        | none => .error ⟨.escapeCodePoint, mark⟩
      else .error ⟨.escapeDigits, mark⟩
  | none, none => .error ⟨.unknownEscape, mark⟩

def quotedRun (quote : Char) (mark : Mark) : Nat → List Char → Lexer → Except Fault (Bool × List Char × Lexer)
  | 0, found, lexer => .ok (false, found, lexer)
  | fuel + 1, found, lexer =>
      let c := lexer.peek
      if isGapOrEnd c then .ok (false, found, lexer)
      else if c == quote then
        if quote == '\'' && lexer.peekAt 1 == '\'' then
          quotedRun quote mark fuel ( '\'' :: found) (lexer.advanceContent 2)
        else .ok (false, found, lexer)
      else if quote == '"' && c == '\\' then
        if isBreak (lexer.peekAt 1) then .ok (true, found, (lexer.advanceContent 1).skipBreak)
        else
          match escape mark lexer with
          | .error fault => .error fault
          | .ok (c, lexer) => quotedRun quote mark fuel (c :: found) lexer
      else quotedRun quote mark fuel (c :: found) (lexer.advanceContent 1)

structure QuotedGap where
  blanks : List Char
  broken : Bool
  folded : Bool
  further : Nat

def QuotedGap.text (gap : QuotedGap) : List Char :=
  if gap.broken then
    if gap.folded && gap.further == 0 then [ ' '] else List.replicate gap.further '\n'
  else gap.blanks

def quotedGap : Nat → QuotedGap → Lexer → Except Fault (QuotedGap × Lexer)
  | 0, gap, lexer => .ok (gap, lexer)
  | fuel + 1, gap, lexer =>
      if isGap lexer.peek then
        if gap.broken then
          if lexer.peek == '\t' && lexer.column < lexer.indent then lexer.fail .tabInQuotes
          else quotedGap fuel gap (lexer.advance 1)
        else quotedGap fuel { gap with blanks := lexer.peek :: gap.blanks } (lexer.advance 1)
      else if isBreak lexer.peek then
        if gap.broken then quotedGap fuel { gap with further := gap.further + 1 } lexer.skipBreak
        else quotedGap fuel { gap with broken := true, folded := true } lexer.skipBreak
      else .ok (gap, lexer)

def quotedText (quote : Char) (mark : Mark) : Nat → List Char → Lexer → Except Fault (List Char × Lexer)
  | 0, found, lexer => .ok (found, lexer)
  | fuel + 1, found, lexer =>
      if lexer.mark.column == 0 && isAnyDocumentMark lexer.rest then .error ⟨.documentMarkInQuotes, mark⟩
      else if isEnd lexer.peek then .error ⟨.endInQuotes, mark⟩
      else if lexer.column < lexer.indent then .error ⟨.quotedIndentation, mark⟩
      else
        match quotedRun quote mark (lexer.rest.length + 1) found lexer with
        | .error fault => .error fault
        | .ok (escapedBreak, found, lexer) =>
            if lexer.peek == quote then .ok (found, lexer)
            else
              match quotedGap (lexer.rest.length + 1) ⟨[], escapedBreak, false, 0⟩ lexer with
              | .error fault => .error fault
              | .ok (gap, lexer) => quotedText quote mark fuel (gap.text ++ found) lexer

def endsQuoted (lexer : Lexer) (mark : Mark) : Bool :=
  let c := lexer.peek
  if lexer.flowLevel > 0 then c == ',' || c == '\x7d' || c == ']' || c == ':' || isBreakOrEnd c
  else isBreakOrEnd c || (c == ':' && mark.line == lexer.mark.line)

def quoted (quote : Char) (lexer : Lexer) : Except Fault Lexer := do
  let mark := lexer.mark
  let lexer := lexer.saveKey.forbidKey.advanceContent 1
  let (found, lexer) ← quotedText quote mark (lexer.rest.length + 2) [] lexer
  let (_, lexer) ← (lexer.advanceContent 1).skipToLineEnd
  if lexer.endsQuoted mark then
    let style := if quote == '\'' then ScalarStyle.singleQuoted else .doubleQuoted
    let kind := TokenKind.scalar style (String.ofList found.reverse)
    let stop := lexer.mark
    let lexer ← lexer.skipToToken
    return { lexer with adjacentValueAt := lexer.mark.index }.push ⟨mark, stop⟩ kind
  else lexer.fail .contentAfterQuotes

end YamlDialects.Yaml.Lexer

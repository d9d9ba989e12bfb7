import YamlDialects.Yaml.Token.Lexer

set_option autoImplicit false

namespace YamlDialects.Yaml.Lexer

def plainRun (inFlow : Bool) : List Char → List Char
  | [] => []
  | c :: rest =>
      if !isGapOrEnd c && canBePlain inFlow c (rest.headD nul) then c :: plainRun inFlow rest else []

structure PlainGap where
  blanks : List Char
  breaks : Nat

def PlainGap.none : PlainGap :=
  ⟨[], 0⟩

def PlainGap.text (gap : PlainGap) : List Char :=
  match gap.breaks with
  | 0 => gap.blanks
  | 1 => [ ' ']
  | breaks + 1 => List.replicate breaks '\n'

def plainGap (mark : Mark) (indent : Int) : Nat → PlainGap → Lexer → Except Fault (PlainGap × Lexer)
  | 0, gap, lexer => .ok (gap, lexer)
  | fuel + 1, gap, lexer =>
      if isGap lexer.peek then
        if !lexer.atLineStart then
          plainGap mark indent fuel { gap with blanks := lexer.peek :: gap.blanks } (lexer.advance 1)
        else if lexer.column < indent && lexer.peek == '\t' then
          match lexer.skipToLineEnd with
          | .error fault => .error fault
          | .ok (_, lexer) =>
              if isBreakOrEnd lexer.peek then plainGap mark indent fuel gap lexer
              else .error ⟨.tabInPlain, mark⟩
        else plainGap mark indent fuel gap (lexer.advance 1)
      else if isBreak lexer.peek then
        plainGap mark indent fuel { gap with breaks := gap.breaks + 1 } lexer.skipBreak
      else .ok (gap, lexer)

def plainText (mark : Mark) (indent : Int) :
    Nat → PlainGap → List Char → Mark → Lexer → Except Fault (List Char × Mark × Lexer)
  | 0, _, found, stop, lexer => .ok (found, stop, lexer)
  | fuel + 1, gap, found, stop, lexer =>
      let inFlow := lexer.flowLevel > 0
      if (lexer.atLineStart && isAnyDocumentMark lexer.rest) || lexer.peek == '#' then .ok (found, stop, lexer)
      else if inFlow && lexer.peek == '-' && isFlow (lexer.peekAt 1) then lexer.fail .dashBeforeFlow
      else
        let run := plainRun inFlow lexer.rest
        let (gap, found, stop, lexer) :=
          if run.isEmpty then (gap, found, stop, lexer)
          else
            let after := lexer.advanceContent run.length
            (PlainGap.none, run.reverse ++ (gap.text ++ found), after.mark, after)
        if !(isGap lexer.peek || isBreak lexer.peek) then .ok (found, stop, lexer)
        else
          match plainGap mark indent (lexer.rest.length + 1) gap lexer with
          | .error fault => .error fault
          | .ok (gap, lexer) =>
              if !inFlow && lexer.column < indent then .ok (found, stop, lexer)
              else plainText mark indent fuel gap found stop lexer

def plain (lexer : Lexer) : Except Fault Lexer := do
  let mark := lexer.mark
  let lexer := lexer.saveKey.forbidKey.unrollPrepared
  let indent := lexer.indent + 1
  if lexer.flowLevel > 0 && lexer.column < indent then lexer.fail .flowIndentation
  else
    let (found, stop, lexer) ← plainText mark indent (lexer.rest.length + 2) .none [] mark lexer
    let lexer := if lexer.atLineStart then lexer.allowKey else lexer
    if found.isEmpty then .error ⟨.emptyPlain, mark⟩
    else return lexer.push ⟨mark, stop⟩ (.scalar .plain (String.ofList found.reverse))

end YamlDialects.Yaml.Lexer

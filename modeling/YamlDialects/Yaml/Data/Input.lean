import YamlDialects.Yaml.Chars

set_option autoImplicit false

namespace YamlDialects.Yaml.Data

def isLineBreak (c : Char) : Bool :=
  isBreak c || c.toNat == 0x85 || c.toNat == 0x2028 || c.toNat == 0x2029

def isLineBreakOrEnd (c : Char) : Bool :=
  isLineBreak c || isEnd c

def isSeparating (c : Char) : Bool :=
  isGap c || isLineBreakOrEnd c

def isAllowed (c : Char) : Bool :=
  let code := c.toNat
  code == 0x9 || code == 0xa || code == 0xd || (0x20 ≤ code && code ≤ 0x7e) || code == 0x85 ||
    (0xa0 ≤ code && code ≤ 0xfffd) || 0x10000 ≤ code

def isByteOrderMark (c : Char) : Bool :=
  c.toNat == 0xfeff

structure Input where
  rest : List Char
  mark : Mark := ⟨0, 0, 0⟩
deriving DecidableEq, Inhabited

namespace Input

def peek (input : Input) : Char :=
  input.rest.headD nul

def peekAt (input : Input) (distance : Nat) : Char :=
  input.rest.getD distance nul

def column (input : Input) : Nat :=
  input.mark.column

def skip (input : Input) (count : Nat) : Input :=
  ⟨input.rest.drop count, ⟨input.mark.index + count, input.mark.line, input.mark.column + count⟩⟩

def span (input : Input) (test : Char → Bool) : List Char × Input :=
  let found := input.rest.takeWhile test
  (found, input.skip found.length)

def skipWhile (input : Input) (test : Char → Bool) : Input :=
  (input.span test).2

def lineBreak (input : Input) : List Char × Input :=
  let pass := fun count (text : List Char) =>
    (text, (⟨input.rest.drop count, ⟨input.mark.index + count, input.mark.line + 1, 0⟩⟩ : Input))
  match input.rest with
  | '\r' :: '\n' :: _ => pass 2 [ '\n']
  | c :: _ =>
      if c.toNat == 0x2028 || c.toNat == 0x2029 then pass 1 [c]
      else if isLineBreak c then pass 1 [ '\n']
      else ([], input)
  | [] => ([], input)

def skipComment (input : Input) : Input :=
  if input.peek == '#' then input.skipWhile fun c => !isLineBreakOrEnd c else input

def skipLineEnd? (input : Input) : Option Input :=
  let after := (input.skipWhile isGap).skipComment
  if isLineBreakOrEnd after.peek then some after.lineBreak.2 else none

def atDocumentMark (input : Input) (dot : Char) : Bool :=
  input.column == 0 && input.peek == dot && input.peekAt 1 == dot && input.peekAt 2 == dot &&
    isSeparating (input.peekAt 3)

def atAnyDocumentMark (input : Input) : Bool :=
  input.atDocumentMark '-' || input.atDocumentMark '.'

end Input

/-- The bytes of a name or a tag. Escapes may make up bytes that are no text. -/
abbrev Bytes := List UInt8

def bytesOf (chars : List Char) : Bytes :=
  (String.ofList chars).toUTF8.toList

inductive Token where
  | streamEnd
  | versionDirective (major minor : Nat)
  | tagDirective (handle : String) (start : Bytes)
  | documentStart
  | documentEnd
  | blockSequenceStart
  | blockMappingStart
  | blockEnd
  | flowSequenceStart
  | flowSequenceEnd
  | flowMappingStart
  | flowMappingEnd
  | blockEntry
  | flowEntry
  | key
  | value
  | reference (name : String)
  | anchor (name : String)
  | tag (handle : String) (rest : Bytes)
  | scalar (isPlain : Bool) (text : String)
deriving DecidableEq, Inhabited

structure Gap where
  spaces : List Char := []
  isBroken : Bool := false
  first : List Char := []
  others : List Char := []
deriving DecidableEq, Inhabited

namespace Gap

/-- One line feed folds to a space and of several the first is dropped; separators are kept. -/
def folded (first others : List Char) : List Char :=
  if first.head? == some '\n' then if others.isEmpty then [ ' '] else others
  else first ++ others

def text (gap : Gap) : List Char :=
  if gap.isBroken then folded gap.first gap.others else gap.spaces

def extend? (column : Nat) : Nat → Gap → Input → Option (Gap × Input)
  | 0, gap, input => some (gap, input)
  | fuel + 1, gap, input =>
      let c := input.peek
      if isGap c then
        if gap.isBroken then
          if c == '\t' && input.column < column then none
          else extend? column fuel gap (input.skip 1)
        else extend? column fuel { gap with spaces := gap.spaces ++ [c] } (input.skip 1)
      else if isLineBreak c then
        let (text, after) := input.lineBreak
        if gap.isBroken then extend? column fuel { gap with others := gap.others ++ text } after
        else extend? column fuel { gap with isBroken := true, first := text, spaces := [] } after
      else some (gap, input)

end Gap
end YamlDialects.Yaml.Data

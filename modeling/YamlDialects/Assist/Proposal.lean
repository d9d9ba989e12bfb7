import YamlDialects.Markdown
import YamlDialects.Outline.Block
import YamlDialects.Text.Blank
import YamlDialects.Text.Offset

/-!
Cursors, and proposals for what to insert there, with their order. A cursor knows what stands before it on
its line, and what has been typed of the next word.

In a text to insert, a dollar sign opens a placeholder; a backslash before a dollar sign, a closing brace
or a backslash makes that character stand for itself.
-/

set_option autoImplicit false

namespace YamlDialects

structure Cursor where
  outline : Outline
  offset : Nat

namespace Cursor

def text (cursor : Cursor) : String :=
  cursor.outline.text

def lineBefore (text : String) (offset : Nat) : List Char :=
  ((Text.splitBytes text.toList offset).1.reverse.takeWhile (· != '\n')).reverse

def lineStart (text : String) (offset : Nat) : Nat :=
  offset - Text.byteLength (lineBefore text offset)

def column (text : String) (offset : Nat) : Nat :=
  (lineBefore text offset).length

def followsBlank (text : String) (offset : Nat) : Bool :=
  match (Text.splitBytes text.toList offset).1.getLast? with
  | some c => Text.isBlank c
  | none => true

/-- Whether a comment opens in the characters; `blank` tells whether it may open at the first. -/
def opensComment (blank : Bool) : List Char → Bool
  | [] => false
  | c :: rest => (c == '#' && blank) || opensComment (Text.isBlank c) rest

def isInComment (text : String) (offset : Nat) : Bool :=
  opensComment true (lineBefore text offset)

def valueStart? (cursor : Cursor) (block : Block) : Option Nat :=
  if !block.isInValue cursor.offset then none
  else
    match block.kind with
    | .key => block.colon?.map (· + 1)
    | .item => some (block.start + 1)
    | _ => none

def query (cursor : Cursor) (block : Block) : List Char :=
  match cursor.valueStart? block with
  | some start =>
      let start := min (max start (lineStart cursor.text cursor.offset)) cursor.offset
      Text.trimLeft ((Text.slice? cursor.text.toList start cursor.offset).getD [])
  | none =>
      ((lineBefore cursor.text cursor.offset).reverse.takeWhile fun c => !Text.isBlank c).reverse

/-- Whether the cursor stands right after the colon of a key, where typing on would undo the key. -/
def isAfterColon (cursor : Cursor) (block : Block) : Bool :=
  block.kind == .key && block.colon?.any fun colon => colon + 1 == cursor.offset

end Cursor
end YamlDialects

namespace YamlDialects.Snippet

def isSpecial (c : Char) : Bool :=
  c == '\\' || c == '$' || c == '}'

def escapeChars : List Char → List Char
  | [] => []
  | c :: rest => if isSpecial c then '\\' :: c :: escapeChars rest else c :: escapeChars rest

def escape (text : String) : String :=
  String.ofList (escapeChars text.toList)

def spaces (count : Nat) : String :=
  String.ofList (List.replicate count ' ')

def indentChars (amount : Nat) : List Char → List Char
  | [] => []
  | c :: rest =>
      if c = '\n' then '\n' :: (List.replicate amount ' ' ++ indentChars amount rest) else c :: indentChars amount rest

def indent (text : String) (amount : Nat) : String :=
  String.ofList (indentChars amount text.toList)

/-- `left` counts the spaces that may still be dropped from the start of the current line. -/
def dedentChars (amount : Nat) : Nat → List Char → List Char
  | _, [] => []
  | left, c :: rest =>
      if c = '\n' then '\n' :: dedentChars amount amount rest
      else if c = ' ' ∧ 0 < left then dedentChars amount (left - 1) rest
      else c :: dedentChars amount 0 rest

def dedent (text : String) (amount : Nat) : String :=
  String.ofList (dedentChars amount 0 text.toList)

def splitBlank (text : String) : String × String :=
  (String.ofList (text.toList.takeWhile Text.isBlank), String.ofList (text.toList.dropWhile Text.isBlank))

end YamlDialects.Snippet

namespace YamlDialects

inductive ProposalKind where
  | property
  | value
deriving DecidableEq, Inhabited

structure Proposal where
  label : String
  insertion : String
  detail : String
  documentation : Option Markdown
  replaced : Region
  score : Float
  kind : ProposalKind
  deprecated : Bool := false
deriving Inhabited

namespace Proposal

def indentWidth : Nat :=
  2

namespace Penalty

def deprecation : Float := 0.2
def dash : Float := 0.05
def nextContext : Float := 0.1
def indented : Float := 0.05
def dedented : Float := 0.1

end Penalty

def lowered (proposal : Proposal) (amount : Float) : Proposal :=
  { proposal with score := proposal.score - amount }

def repeated (mark : String) (count : Nat) : String :=
  String.join (List.replicate count mark)

def dashInsertion (proposal : Proposal) (text : String) (block : Block) : String :=
  let (blank, rest) := Snippet.splitBlank proposal.insertion
  let before := Cursor.lineBefore text proposal.replaced.start
  if proposal.kind == .value && before.any fun c => !Text.isBlank c then
    blank ++ "\n" ++ Snippet.spaces (block.indent.getD 0) ++ "- " ++ Snippet.indent rest indentWidth
  else if blank.utf8ByteSize > 2 && blank.endsWith "  " then
    String.ofList (blank.toList.dropLast.dropLast) ++ "- " ++ rest
  else blank ++ "- " ++ Snippet.indent rest indentWidth

def withDash (proposal : Proposal) (text : String) (block : Block) : Proposal :=
  { proposal with
    insertion := proposal.dashInsertion text block
    label := "- " ++ proposal.label }

def hasDash (proposal : Proposal) : Bool :=
  proposal.label.startsWith "- "

def indented (proposal : Proposal) (amount : Nat) : Proposal :=
  let arrows := (amount + 1) / 2
  let (blank, rest) := Snippet.splitBlank proposal.insertion
  lowered { proposal with
    insertion := blank ++ Snippet.spaces amount ++ Snippet.indent rest amount
    label := repeated "→ " arrows ++ proposal.label } (Float.ofNat arrows * Penalty.indented)

def dedented? (proposal : Proposal) (amount : Nat) (text : String) : Option Proposal :=
  let stop := proposal.replaced.start
  if stop < amount then none
  else
    match Text.slice? text.toList (stop - amount) stop with
    | none => none
    | some before =>
        if before.all (· == ' ') then
          let arrows := amount / 2
          let (blank, rest) := Snippet.splitBlank proposal.insertion
          some (lowered { proposal with
            insertion := blank ++ Snippet.dedent rest amount
            replaced := ⟨stop - amount, proposal.replaced.stop⟩
            label := repeated "← " arrows ++ proposal.label } (Float.ofNat arrows * Penalty.dedented))
        else none

def comesBefore (first second : Proposal) : Bool :=
  second.score < first.score || (!(first.score < second.score) && first.label ≤ second.label)

def isSameAs (first second : Proposal) : Bool :=
  first.label == second.label && first.insertion == second.insertion && first.replaced == second.replaced

def dropRepeats (proposals : List Proposal) : List Proposal :=
  proposals.foldl
    (fun kept proposal => if kept.any proposal.isSameAs then kept else kept ++ [proposal]) []

def ranked (proposals : List Proposal) : List Proposal :=
  dropRepeats (proposals.mergeSort comesBefore)

end Proposal
end YamlDialects

import YamlDialects.Text.Offset
import YamlDialects.Width

/-!
Lines and columns. A position is a line and a column counted in UTF-16 units, each written with 32 bits.
-/

set_option autoImplicit false

namespace YamlDialects

structure Position where
  line : Nat
  column : Nat
deriving DecidableEq, Inhabited

namespace Text

def units16 (c : Char) : Nat :=
  if c.toNat < 0x10000 then 1 else 2

def units16All : List Char → Nat
  | [] => 0
  | c :: rest => units16 c + units16All rest

def offsetAtColumn? : List Char → Nat → Option Nat
  | _, 0 => some 0
  | [], _ + 1 => none
  | c :: rest, column + 1 =>
      if units16 c ≤ column + 1 then
        (offsetAtColumn? rest (column + 1 - units16 c)).map (c.utf8Size + ·)
      else none

def startsAfterBreaks : Nat → List Char → List Nat
  | _, [] => []
  | offset, c :: rest =>
      let next := offset + c.utf8Size
      if c = '\n' then next :: startsAfterBreaks next rest else startsAfterBreaks next rest

end Text

structure LineIndex where
  starts : List Nat
  size : Nat

namespace LineIndex

def ofText (text : String) : LineIndex :=
  ⟨0 :: Text.startsAfterBreaks 0 text.toList, Text.byteLength text.toList⟩

def lineCount (index : LineIndex) : Nat :=
  index.starts.length

def lineOf (index : LineIndex) (offset : Nat) : Nat :=
  (index.starts.takeWhile (· ≤ offset)).length - 1

def lineStart (index : LineIndex) (line : Nat) : Nat :=
  index.starts.getD line index.size

def columnOf (index : LineIndex) (offset : Nat) : Nat :=
  offset - index.lineStart (index.lineOf offset)

def positionOf (index : LineIndex) (text : String) (offset : Nat) : Position :=
  let offset := min offset index.size
  let line := index.lineOf offset
  let before := (Text.slice? text.toList (index.lineStart line) offset).getD []
  ⟨Width.low 32 line, Width.low 32 (Text.units16All before)⟩

/-- Offset of a position; a column past the end of its line, or inside a surrogate pair, stands for
the end of the line. -/
def offsetOf (index : LineIndex) (text : String) (position : Position) : Nat :=
  if position.line < index.lineCount then
    let start := index.lineStart position.line
    let stop := (index.starts[position.line + 1]?.map (· - 1)).getD index.size
    let content := (Text.slice? text.toList start stop).getD []
    start + (Text.offsetAtColumn? content position.column).getD (Text.byteLength content)
  else index.size

end LineIndex
end YamlDialects

import YamlDialects.Text.Blank
import YamlDialects.Text.Offset
import YamlDialects.Text.Word

set_option autoImplicit false

namespace YamlDialects.Outline

/-- One line: its characters without the terminator, and where it starts and ends. A line of white
space has no indentation. -/
structure Line where
  chars : List Char
  start : Nat
  contentStop : Nat
  stop : Nat
  indent : Option Nat

def leadingSpaces (chars : List Char) : Nat :=
  (chars.takeWhile (· == ' ')).length

def indentOf (chars : List Char) : Option Nat :=
  if chars.all Text.isBlank then none else some (leadingSpaces chars)

def Line.of (start : Nat) (chars : List Char) (terminator : Nat) : Line :=
  let contentStop := start + Text.byteLength chars
  ⟨chars, start, contentStop, contentStop + terminator, indentOf chars⟩

/-- Splits at line feeds; a carriage return right before one belongs to the terminator. The characters
of the current line are held in reverse. -/
def linesFrom (start : Nat) (held : List Char) : List Char → List Line
  | [] => [Line.of start held.reverse 0]
  | c :: rest =>
      if c = '\n' then
        let line := match held with
          | '\r' :: before => Line.of start before.reverse 2
          | _ => Line.of start held.reverse 1
        line :: linesFrom line.stop [] rest
      else linesFrom start (c :: held) rest

def lines (chars : List Char) : List Line :=
  linesFrom 0 [] chars

def isKeyChar (c : Char) : Bool :=
  Text.isWord c || c == '.' || c == '-'

def keyLength? (chars : List Char) : Option Nat :=
  match chars.head?, chars.dropWhile isKeyChar with
  | some first, [ ':'] => if Text.isWord first then some (Text.byteLength (chars.takeWhile isKeyChar)) else none
  | some first, ':' :: ' ' :: _ =>
      if Text.isWord first then some (Text.byteLength (chars.takeWhile isKeyChar)) else none
  | _, _ => none

def itemRest? : List Char → Option (List Char)
  | [ '-'] => some []
  | '-' :: ' ' :: rest => some rest
  | _ => none

def endsQuietly (chars : List Char) : Bool :=
  match Text.trimLeft chars with
  | [] => true
  | c :: _ => c == '#'

def isSeparator : List Char → Bool
  | '-' :: '-' :: '-' :: rest => endsQuietly rest
  | '.' :: '.' :: '.' :: rest => endsQuietly rest
  | _ => false

def isPreamble (chars : List Char) : Bool :=
  chars.head? == some '%' || (Text.trimLeft chars).head? == some '#'

def Line.body (line : Line) : List Char :=
  line.chars.drop (line.indent.getD 0)

end YamlDialects.Outline

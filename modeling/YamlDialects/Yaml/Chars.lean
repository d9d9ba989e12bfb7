/-!
Places in a text, counted in characters, and character classes of YAML. A text ends at its first NUL, which also stands for
the end of the text.
-/

set_option autoImplicit false

namespace YamlDialects.Yaml

structure Mark where
  index : Nat
  line : Nat
  column : Nat
deriving DecidableEq, Inhabited

structure Span where
  start : Mark
  stop : Mark
deriving DecidableEq, Inhabited

def Span.empty (mark : Mark) : Span :=
  ⟨mark, mark⟩

end YamlDialects.Yaml

namespace YamlDialects.Yaml

def nul : Char :=
  Char.ofNat 0

def isEnd (c : Char) : Bool :=
  c == nul

def isBreak (c : Char) : Bool :=
  c == '\n' || c == '\r'

def isGap (c : Char) : Bool :=
  c == ' ' || c == '\t'

def isBreakOrEnd (c : Char) : Bool :=
  isBreak c || isEnd c

def isGapOrEnd (c : Char) : Bool :=
  isGap c || isBreakOrEnd c

def isFlow (c : Char) : Bool :=
  c == ',' || c == '[' || c == ']' || c == '\x7b' || c == '\x7d'

def isNameChar (c : Char) : Bool :=
  c.isAlphanum || c == '_' || c == '-'

def isAnchorChar (c : Char) : Bool :=
  !isGapOrEnd c && !isFlow c && c.toNat != 0xfeff

def isUriChar (c : Char) : Bool :=
  c.isAlphanum || "-#;/?:@&=+$,_.!~*'()[]%".toList.contains c

def isTagChar (c : Char) : Bool :=
  isUriChar c && !isFlow c && c != '!'

def isHex (c : Char) : Bool :=
  c.isDigit || ( 'a' ≤ c && c ≤ 'f') || ( 'A' ≤ c && c ≤ 'F')

def hexDigit (c : Char) : Nat :=
  if c.isDigit then c.toNat - 48
  else if 'a' ≤ c then c.toNat - 87
  else c.toNat - 55

def isDocumentMark (dot : Char) (chars : List Char) : Bool :=
  chars.getD 0 nul == dot && chars.getD 1 nul == dot && chars.getD 2 nul == dot && isGapOrEnd (chars.getD 3 nul)

def isAnyDocumentMark (chars : List Char) : Bool :=
  isDocumentMark '-' chars || isDocumentMark '.' chars

def canBePlain (inFlow : Bool) (c next : Char) : Bool :=
  if c == ':' && (isGapOrEnd next || (inFlow && isFlow next)) then false
  else !(inFlow && isFlow c)

end YamlDialects.Yaml

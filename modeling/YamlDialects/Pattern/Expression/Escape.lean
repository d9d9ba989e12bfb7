import YamlDialects.Pattern.Expression.Basic
import YamlDialects.Text.Blank

set_option autoImplicit false

namespace YamlDialects.Expression

def afterBlank (inComment : Bool) : List Char → List Char
  | [] => []
  | c :: rest =>
      if inComment then afterBlank (c != '\n') rest
      else if Text.isBlank c then afterBlank false rest
      else if c == '#' then afterBlank true rest
      else c :: rest

def skipBlank (verbose : Bool) (chars : List Char) : List Char :=
  if verbose then afterBlank false chars else chars

theorem length_afterBlank_le (inComment : Bool) (chars : List Char) :
    (afterBlank inComment chars).length ≤ chars.length := by
  fun_induction afterBlank inComment chars <;> simp_all <;> omega

theorem length_skipBlank_le (verbose : Bool) (chars : List Char) :
    (skipBlank verbose chars).length ≤ chars.length := by
  unfold skipBlank
  split
  · exact length_afterBlank_le false chars
  · exact Nat.le_refl _

def isHexDigit (c : Char) : Bool :=
  c.isDigit || ( 'a' ≤ c && c ≤ 'f') || ( 'A' ≤ c && c ≤ 'F')

def hexDigitValue (c : Char) : Nat :=
  if c.isDigit then c.toNat - 48 else if 'a' ≤ c then c.toNat - 87 else c.toNat - 55

def charOfHex? (digits : List Char) : Option Char :=
  if digits.isEmpty || !digits.all isHexDigit then none
  else
    let code := digits.foldl (fun total c => 16 * total + hexDigitValue c) 0
    if code.isValidChar then some (Char.ofNat code) else none

def braced? (verbose : Bool) (chars : List Char) : Option (List Char × List Char) :=
  match _shown : skipBlank verbose chars with
  | [] => none
  | '\x7d' :: rest => some ([], rest)
  | c :: rest => (braced? verbose rest).map fun (inside, rest) => (c :: inside, rest)
termination_by chars.length
decreasing_by
  have bound := length_skipBlank_le verbose chars
  rw [_shown] at bound
  simp only [List.length_cons] at bound
  omega

def digits? (verbose : Bool) : Nat → List Char → Option (List Char × List Char)
  | 0, chars => some ([], chars)
  | count + 1, chars =>
      match skipBlank verbose chars with
      | [] => none
      | c :: rest => (digits? verbose count rest).map fun (digits, rest) => (c :: digits, rest)

def codePoint? (verbose : Bool) (width : Nat) (chars : List Char) : Option (Literal × List Char) :=
  match skipBlank verbose chars with
  | '\x7b' :: rest => do
      let (digits, rest) ← braced? verbose rest
      return (⟨← charOfHex? digits, false⟩, rest)
  | rest => do
      let (digits, rest) ← digits? verbose width rest
      return (⟨← charOfHex? digits, width == 2⟩, rest)

def divided? (separator : List Char) : List Char → Option (List Char × List Char)
  | [] => none
  | c :: rest =>
      if separator.isPrefixOf (c :: rest) then some ([], (c :: rest).drop separator.length)
      else (divided? separator rest).map fun (before, after) => (c :: before, after)

def propertyName (name : List Char) : ClassName :=
  match (divided? "!=".toList name).orElse fun _ =>
      (divided? ":".toList name).orElse fun _ => divided? "=".toList name with
  | some (property, value) => .propertyValue property value
  | none => .property name

def property? (verbose : Bool) (chars : List Char) : Option (ClassName × List Char) :=
  match skipBlank verbose chars with
  | [] => none
  | '\x7b' :: rest => (braced? verbose rest).map fun (name, rest) => (propertyName name, rest)
  | '\\' :: _ => none
  | c :: rest => some (.property [c], rest)

def isEdgeNameChar (c : Char) : Bool :=
  c.isAlpha || c == '-'

def edgeOfName? (name : String) : Option WordEdge :=
  match name with
  | "start" => some .start
  | "end" => some .stop
  | "start-half" => some .startHalf
  | "end-half" => some .stopHalf
  | _ => none

/-- A word boundary, which may be described in braces. Braces around anything but a name repeat it. -/
def wordEdge? (verbose : Bool) (chars : List Char) : Option (WordEdge × List Char) :=
  match chars with
  | '\x7b' :: rest =>
      match skipBlank verbose rest with
      | [] => none
      | c :: _ =>
          if isEdgeNameChar c then do
            let (name, rest) ← braced? verbose rest
            if name.all isEdgeNameChar then return (← edgeOfName? (String.ofList name), rest) else failure
          else some (.boundary, chars)
  | rest => some (.boundary, rest)

inductive Primitive where
  | literal (literal : Literal)
  | assertion (mark : AssertionMark)
  | named (negated : Bool) (name : ClassName)
  | dot
deriving Inhabited

def escape? (verbose : Bool) (chars : List Char) : Option (Primitive × List Char) :=
  let char := fun (c : Char) rest => some (Primitive.literal ⟨c, false⟩, rest)
  match chars with
  | [] => none
  | 'x' :: rest => (codePoint? verbose 2 rest).map fun (written, rest) => (.literal written, rest)
  | 'u' :: rest => (codePoint? verbose 4 rest).map fun (written, rest) => (.literal written, rest)
  | 'U' :: rest => (codePoint? verbose 8 rest).map fun (written, rest) => (.literal written, rest)
  | 'p' :: rest => (property? verbose rest).map fun (name, rest) => (.named false name, rest)
  | 'P' :: rest => (property? verbose rest).map fun (name, rest) => (.named true name, rest)
  | 'd' :: rest => some (.named false .digit, rest)
  | 'D' :: rest => some (.named true .digit, rest)
  | 's' :: rest => some (.named false .blank, rest)
  | 'S' :: rest => some (.named true .blank, rest)
  | 'w' :: rest => some (.named false .word, rest)
  | 'W' :: rest => some (.named true .word, rest)
  | 'a' :: rest => char '\x07' rest
  | 'f' :: rest => char '\x0c' rest
  | 't' :: rest => char '\t' rest
  | 'n' :: rest => char '\n' rest
  | 'r' :: rest => char '\r' rest
  | 'v' :: rest => char '\x0b' rest
  | 'A' :: rest => some (.assertion .textStart, rest)
  | 'z' :: rest => some (.assertion .textStop, rest)
  | 'b' :: rest => (wordEdge? verbose rest).map fun (edge, rest) => (.assertion (.word edge), rest)
  | 'B' :: rest => some (.assertion (.word .inside), rest)
  | '<' :: rest => some (.assertion (.word .start), rest)
  | '>' :: rest => some (.assertion (.word .stop), rest)
  | c :: rest => if c.isAlphanum || c.toNat ≥ 0x80 then none else char c rest

end YamlDialects.Expression

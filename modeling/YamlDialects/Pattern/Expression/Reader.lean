import YamlDialects.Pattern.Expression.Set
import YamlDialects.Text.Unicode.Query
import YamlDialects.Width

set_option autoImplicit false

namespace YamlDialects.Expression

structure Reader where
  chars : List Char
  verbose : Bool := false
  names : List (List Char) := []

def digitRun (verbose : Bool) : Nat → List Char → List Char × List Char
  | 0, chars => ([], chars)
  | _ + 1, [] => ([], [])
  | fuel + 1, c :: rest =>
      if c.isDigit then
        let (digits, rest) := digitRun verbose fuel (skipBlank verbose rest)
        (c :: digits, rest)
      else ([], c :: rest)

def number? (verbose : Bool) (chars : List Char) : Option (Nat × List Char) :=
  let (digits, rest) := digitRun verbose chars.length (chars.dropWhile Text.isBlank)
  let value : Nat := digits.foldl (fun total c => 10 * total + (c.toNat - 48)) 0
  if !digits.isEmpty && Width.isUnsigned 32 value then some (value, skipBlank verbose (rest.dropWhile Text.isBlank)) else none

def bounds? (verbose : Bool) (chars : List Char) : Option ((Nat × Option Nat) × List Char) := do
  let (least, rest) ← number? verbose (skipBlank verbose chars)
  match rest with
  | '\x7d' :: rest => return ((least, some least), rest)
  | ',' :: rest =>
      match skipBlank verbose rest with
      | '\x7d' :: rest => return ((least, none), rest)
      | rest =>
          let (most, rest) ← number? verbose rest
          match rest with
          | '\x7d' :: rest => if least ≤ most then return ((least, some most), rest) else failure
          | _ => failure
  | _ => failure

def flagOf? : Char → Option Flag
  | 'i' => some .ignoreCase
  | 'm' => some .multiLine
  | 's' => some .dotAll
  | 'U' => some .swapGreed
  | 'u' => some .unicode
  | 'R' => some .carriageReturn
  | 'x' => some .verbose
  | _ => none

def flagChange? (names : List Char) : Option FlagChange := do
  let on ← (names.takeWhile (· != '-')).mapM flagOf?
  let after := names.dropWhile (· != '-')
  let off ← after.tail.mapM flagOf?
  if !after.isEmpty && off.isEmpty then failure
  if (on ++ off).eraseDups.length < (on ++ off).length then failure
  return { on, off }

def isNameStart (c : Char) : Bool :=
  c == '_' || Text.CharSet.alphabetic.contains c.toNat

def isNamePart (c : Char) : Bool :=
  isNameStart c || Text.CharSet.numeric.contains c.toNat || c == '.' || c == '[' || c == ']'

def groupName? (chars : List Char) : Option (List Char × List Char) :=
  let name := chars.takeWhile (· != '>')
  match chars.dropWhile (· != '>') with
  | _ :: rest => if name.head?.any isNameStart && name.tail.all isNamePart then some (name, rest) else none
  | [] => none

inductive Opening where
  | group (isCapture : Bool) (change : FlagChange) (reader : Reader)
  | flags (change : FlagChange) (reader : Reader)

def namedGroup? (reader : Reader) (chars : List Char) : Option Opening := do
  let (name, rest) ← groupName? chars
  if reader.names.contains name then failure
  return .group true {} { reader with chars := rest, names := name :: reader.names }

def opening? (reader : Reader) : Option Opening :=
  match skipBlank reader.verbose reader.chars with
  | '?' :: 'P' :: '<' :: rest => namedGroup? reader rest
  | '?' :: '<' :: '=' :: _ => none
  | '?' :: '<' :: '!' :: _ => none
  | '?' :: '<' :: rest => namedGroup? reader rest
  | '?' :: rest => do
      let isFlag := fun c => c != ':' && c != ')'
      let change ← flagChange? (rest.takeWhile isFlag)
      match rest.dropWhile isFlag with
      | ':' :: rest => return .group false change { reader with chars := rest }
      | ')' :: rest => if change == {} then failure else return .flags change { reader with chars := rest }
      | _ => failure
  | rest => some (.group true {} { reader with chars := rest })

def primitive? (verbose : Bool) : List Char → Option (Primitive × List Char)
  | [] => none
  | '\\' :: rest => escape? verbose rest
  | '.' :: rest => some (.dot, rest)
  | '^' :: rest => some (.assertion .lineStart, rest)
  | '$' :: rest => some (.assertion .lineStop, rest)
  | c :: rest => some (.literal ⟨c, false⟩, rest)

def ofPrimitive : Primitive → Expression
  | .literal written => .literal written
  | .assertion mark => .assertion mark
  | .named negated name => .named negated name
  | .dot => .dot

def repeatLast? (parts : List Expression) (least : Nat) (most : Option Nat) (rest : List Char) :
    Option (List Expression × List Char) :=
  match parts with
  | last :: others =>
      let rest := match rest with
        | '?' :: rest => rest
        | rest => rest
      if last.isRepeatable then some (.repeated last least most :: others, rest) else none
  | [] => none

mutual

def alternatives? : Nat → Reader → Option (List Expression × Reader)
  | 0, _ => none
  | fuel + 1, reader => do
      let (parts, reader) ← parts? fuel [] reader
      match reader.chars with
      | '|' :: rest =>
          let (others, reader) ← alternatives? fuel { reader with chars := rest }
          return (ofParts parts :: others, reader)
      | _ => return ([ofParts parts], reader)

def parts? : Nat → List Expression → Reader → Option (List Expression × Reader)
  | 0, _, _ => none
  | fuel + 1, found, reader =>
      let go := fun found rest => parts? fuel found { reader with chars := rest }
      match skipBlank reader.verbose reader.chars with
      | [] => some (found.reverse, { reader with chars := [] })
      | '|' :: rest => some (found.reverse, { reader with chars := '|' :: rest })
      | ')' :: rest => some (found.reverse, { reader with chars := ')' :: rest })
      | '(' :: rest => do
          match ← opening? { reader with chars := rest } with
          | .flags change after =>
              parts? fuel (.flags change :: found) { after with verbose := change.apply .verbose reader.verbose }
          | .group isCapture change inside =>
              let (inner, after) ←
                alternatives? fuel { inside with verbose := change.apply .verbose reader.verbose }
              match after.chars with
              | ')' :: rest =>
                  parts? fuel (.group isCapture change (ofAlternatives inner) :: found)
                    { after with chars := rest, verbose := reader.verbose }
              | _ => failure
      | '[' :: rest => do
          let (( negated, inner), rest) ← set? (2 * rest.length + 2) reader.verbose rest
          go (.set negated inner :: found) rest
      | '?' :: rest => do
          let (found, rest) ← repeatLast? found 0 (some 1) rest
          go found rest
      | '*' :: rest => do
          let (found, rest) ← repeatLast? found 0 none rest
          go found rest
      | '+' :: rest => do
          let (found, rest) ← repeatLast? found 1 none rest
          go found rest
      | '\x7b' :: rest => do
          let ((least, most), rest) ← bounds? reader.verbose rest
          let (found, rest) ← repeatLast? found least most (skipBlank reader.verbose rest)
          go found rest
      | rest => do
          let (part, rest) ← primitive? reader.verbose rest
          go (ofPrimitive part :: found) rest

end

def maxDepth : Nat := 250

def ofText? (text : String) : Option Expression := do
  let (parts, reader) ← alternatives? (3 * text.length + 3) { chars := text.toList }
  let expression := ofAlternatives parts
  if reader.chars.isEmpty && expression.depth ≤ maxDepth then return expression else failure

end YamlDialects.Expression

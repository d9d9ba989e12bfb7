import YamlDialects.Pattern.Expression.Escape

set_option autoImplicit false

namespace YamlDialects.Expression

def asciiNames : List String :=
  ["alnum", "alpha", "ascii", "blank", "cntrl", "digit", "graph", "lower", "print", "punct", "space", "upper",
    "word", "xdigit"]

def asciiClass? (chars : List Char) : Option (SetExpression × List Char) :=
  let ( negated, start) := match chars with
    | ':' :: '^' :: rest => (true, some rest)
    | ':' :: rest => (false, some rest)
    | _ => (false, none)
  match start with
  | none => none
  | some rest =>
      let name := String.ofList (rest.takeWhile (· != ':'))
      match rest.dropWhile (· != ':') with
      | ':' :: ']' :: rest =>
          if asciiNames.contains name then some (.named negated (.ascii name), rest) else none
      | _ => none

def setPrimitive? (verbose : Bool) : List Char → Option (Primitive × List Char)
  | [] => none
  | '\\' :: rest => escape? verbose rest
  | c :: rest => some (.literal ⟨c, false⟩, rest)

/-- The character after a hyphen, blanks apart. A comment hides nothing but its mark. -/
def peekBlank (verbose : Bool) (chars : List Char) : Option Char :=
  if !verbose then chars.head?
  else
    let shown := match chars.dropWhile Text.isBlank with
      | '#' :: rest => rest.dropWhile Text.isBlank
      | rest => rest
    if shown.isEmpty then chars.head? else shown.head?

def setItem? : Primitive → Option SetExpression
  | .literal written => some (.literal written)
  | .named negated name => some (.named negated name)
  | _ => none

def literal? : Primitive → Option Literal
  | .literal written => some written
  | _ => none

/-- One member of a class or a range of characters. A hyphen before a bracket or a hyphen makes no range. -/
def setRange? (verbose : Bool) (chars : List Char) : Option (SetExpression × List Char) := do
  let (first, rest) ← setPrimitive? verbose chars
  match skipBlank verbose rest with
  | [] => failure
  | '-' :: after =>
      let next := peekBlank verbose after
      if next == some ']' || next == some '-' then return (← setItem? first, '-' :: after)
      else
        let (last, rest) ← setPrimitive? verbose (skipBlank verbose after)
        let first ← literal? first
        let last ← literal? last
        if first.char ≤ last.char then return (.range first last, rest) else failure
  | rest => return (← setItem? first, rest)

def leadingHyphens (verbose : Bool) : Nat → List Char → List SetExpression × List Char
  | 0, chars => ([], chars)
  | fuel + 1, chars =>
      match chars with
      | '-' :: rest =>
          let (others, rest) := leadingHyphens verbose fuel (skipBlank verbose rest)
          (.literal ⟨ '-', false⟩ :: others, rest)
      | rest => ([], rest)

abbrev PendingSet := Option (SetOperation × SetExpression)

def closeSet (pending : PendingSet) (items : List SetExpression) : SetExpression :=
  let last := SetExpression.ofItems items.reverse
  match pending with
  | some (kind, left) => .operation kind left last
  | none => last

mutual

def set? : Nat → Bool → List Char → Option ((Bool × SetExpression) × List Char)
  | 0, _, _ => none
  | fuel + 1, verbose, chars =>
      let ( negated, chars) := match skipBlank verbose chars with
        | '^' :: rest => (true, skipBlank verbose rest)
        | rest => (false, rest)
      let (hyphens, chars) := leadingHyphens verbose chars.length chars
      let (items, chars) := match hyphens, chars with
        | [], ']' :: rest => ([SetExpression.literal ⟨ ']', false⟩], rest)
        | hyphens, rest => (hyphens.reverse, rest)
      (setMembers? fuel verbose none items chars).map fun (inner, rest) => ((negated, inner), rest)

def setMembers? : Nat → Bool → PendingSet → List SetExpression → List Char → Option (SetExpression × List Char)
  | 0, _, _, _, _ => none
  | fuel + 1, verbose, pending, items, chars =>
      let operation := fun kind rest => setMembers? fuel verbose (some (kind, closeSet pending items)) [] rest
      match skipBlank verbose chars with
      | [] => none
      | ']' :: rest => some (closeSet pending items, rest)
      | '&' :: '&' :: rest => operation .inter rest
      | '-' :: '-' :: rest => operation .diff rest
      | '~' :: '~' :: rest => operation .symmDiff rest
      | '[' :: rest =>
          match asciiClass? rest with
          | some (item, rest) => setMembers? fuel verbose pending (item :: items) rest
          | none =>
              match set? fuel verbose rest with
              | some (( negated, inner), rest) =>
                  setMembers? fuel verbose pending (.bracketed negated inner :: items) rest
              | none => none
      | chars =>
          match setRange? verbose chars with
          | some (item, rest) => setMembers? fuel verbose pending (item :: items) rest
          | none => none

end

end YamlDialects.Expression

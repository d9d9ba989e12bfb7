import YamlDialects.Yaml.Data.Input

set_option autoImplicit false

namespace YamlDialects.Yaml.Data

inductive Chomping where
  | strip
  | clip
  | keep
deriving DecidableEq, Inhabited

def chomping? : Char → Option Chomping
  | '+' => some .keep
  | '-' => some .strip
  | _ => none

def blockHeader? (input : Input) : Option (Chomping × Nat × Input) :=
  let digit := fun (input : Input) =>
    if input.peek == '0' then none
    else if input.peek.isDigit then some (input.peek.toNat - 48, input.skip 1)
    else some (0, input)
  match chomping? input.peek with
  | some chomping => (digit (input.skip 1)).map fun (increment, after) => (chomping, increment, after)
  | none =>
      match digit input with
      | none => none
      | some (0, after) => some (.clip, 0, after)
      | some (increment, after) =>
          match chomping? after.peek with
          | some chomping => some (chomping, increment, after.skip 1)
          | none => some (.clip, increment, after)

/-- Passes over indentation and empty lines: their breaks, and the widest indentation seen. As long as
the indentation is not known (zero), every space counts to it. -/
def emptyLines? (indent : Nat) : Nat → List Char → Nat → Input → Option (List Char × Nat × Input)
  | 0, _, _, _ => none
  | fuel + 1, breaks, widest, input =>
      let isInside := fun column => indent == 0 || column < indent
      let room := if indent == 0 then input.rest.length else indent - input.column
      let spaces := ((input.rest.take room).takeWhile (· == ' ')).length
      let after := input.skip spaces
      let widest := max widest after.column
      if isInside after.column && after.peek == '\t' then none
      else if isLineBreak after.peek then
        let (text, next) := after.lineBreak
        emptyLines? indent fuel (breaks ++ text) widest next
      else some (breaks, widest, after)

def foundIndent (outer : Int) (widest : Nat) : Nat :=
  max (max widest (outer + 1).toNat) 1

def joinLines (literal : Bool) (first others : List Char) (blankBefore blankAfter : Bool) : List Char :=
  if !literal && first.head? == some '\n' && !blankBefore && !blankAfter then
    (if others.isEmpty then [ ' '] else []) ++ others
  else first ++ others

structure BlockLines where
  text : List Char := []
  first : List Char := []
  others : List Char := []
  startsBlank : Bool := false

def blockLines? (literal : Bool) (indent : Nat) : Nat → BlockLines → Input → Option (BlockLines × Input)
  | 0, _, _ => none
  | fuel + 1, lines, input =>
      if input.column == indent && !isEnd input.peek then
        let isBlank := isGap input.peek
        let joined := joinLines literal lines.first lines.others lines.startsBlank isBlank
        let (line, atBreak) := input.span fun c => !isLineBreakOrEnd c
        let (first, next) := atBreak.lineBreak
        match emptyLines? indent (next.rest.length + 1) [] 0 next with
        | none => none
        | some (others, _, next) =>
            blockLines? literal indent fuel ⟨lines.text ++ joined ++ line, first, others, isBlank⟩ next
      else some (lines, input)

def blockScalar? (outer : Int) (input : Input) : Option (List Char × Input) := do
  let (chomping, increment, after) ← blockHeader? (input.skip 1)
  let start ← after.skipLineEnd?
  let given := if increment == 0 then 0 else outer.toNat + increment
  let (breaks, widest, first) ← emptyLines? given (start.rest.length + 1) [] 0 start
  let indent := if given == 0 then foundIndent outer widest else given
  let (lines, next) ←
    blockLines? (input.peek == '|') indent (first.rest.length + 1) { others := breaks } first
  let closing := match chomping with
    | .strip => []
    | .clip => lines.first
    | .keep => lines.first ++ lines.others
  return (lines.text ++ closing, next)

end YamlDialects.Yaml.Data

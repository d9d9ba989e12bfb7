import YamlDialects.Yaml.Data.Input

set_option autoImplicit false

namespace YamlDialects.Yaml.Data

def escaped? : Char → Option Char
  | '0' => some (Char.ofNat 0)
  | 'a' => some '\x07'
  | 'b' => some '\x08'
  | 't' => some '\t'
  | '\t' => some '\t'
  | 'n' => some '\n'
  | 'v' => some '\x0b'
  | 'f' => some '\x0c'
  | 'r' => some '\r'
  | 'e' => some '\x1b'
  | ' ' => some ' '
  | '"' => some '"'
  | '/' => some '/'
  | '\\' => some '\\'
  | 'N' => some (Char.ofNat 0x85)
  | '_' => some (Char.ofNat 0xa0)
  | 'L' => some (Char.ofNat 0x2028)
  | 'P' => some (Char.ofNat 0x2029)
  | _ => none

def escapeWidth? : Char → Option Nat
  | 'x' => some 2
  | 'u' => some 4
  | 'U' => some 8
  | _ => none

def codePoint? (digits : List Char) : Option Char :=
  let code := digits.foldl (fun total c => 16 * total + hexDigit c) 0
  if digits.all isHex && code.isValidChar then some (Char.ofNat code) else none

def escape? (rest : List Char) : Option (Char × Nat) :=
  match rest with
  | [] => none
  | c :: digits =>
      match escaped? c, escapeWidth? c with
      | some meant, _ => some (meant, 1)
      | none, some width =>
          if digits.length < width then none else (codePoint? (digits.take width)).map (·, width + 1)
      | none, none => none

inductive QuotedPiece where
  | char (c : Char) (length : Nat)
  | escapedBreak
  | stop

def quotedPiece? (single : Bool) (rest : List Char) : Option QuotedPiece :=
  match rest with
  | [] => some .stop
  | c :: next =>
      if isSeparating c then some .stop
      else if single then
        if c == '\'' then if next.head? == some '\'' then some (.char '\'' 2) else some .stop
        else some (.char c 1)
      else if c == '"' then some .stop
      else if c == '\\' then
        if next.head?.any isLineBreak then some .escapedBreak
        else (escape? next).map fun (meant, length) => .char meant (length + 1)
      else some (.char c 1)

def quotedWord? (single : Bool) : Nat → List Char → Input → Option (List Char × Bool × Input)
  | 0, _, _ => none
  | fuel + 1, found, input =>
      match quotedPiece? single input.rest with
      | none => none
      | some .stop => some (found.reverse, false, input)
      | some .escapedBreak => some (found.reverse, true, (input.skip 1).lineBreak.2)
      | some (.char c length) => quotedWord? single fuel (c :: found) (input.skip length)

def quotedFrom? (single : Bool) : Nat → List Char → Input → Option (List Char × Input)
  | 0, _, _ => none
  | fuel + 1, text, input =>
      if input.atAnyDocumentMark || isEnd input.peek then none
      else
        match quotedWord? single (input.rest.length + 1) [] input with
        | none => none
        | some (word, isBroken, after) =>
            if after.peek == (if single then '\'' else '"') then some (text ++ word, after.skip 1)
            else
              match Gap.extend? 0 (after.rest.length + 1) { isBroken } after with
              | none => none
              | some (gap, next) => quotedFrom? single fuel (text ++ word ++ gap.text) next

def quoted? (input : Input) : Option (List Char × Input) :=
  quotedFrom? (input.peek == '\'') (input.rest.length + 1) [] (input.skip 1)

end YamlDialects.Yaml.Data

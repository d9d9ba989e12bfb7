import YamlDialects.Yaml.Token.Lexer

set_option autoImplicit false

namespace YamlDialects.Yaml.Lexer

def encodedWidth? (byte : Nat) : Option Nat :=
  if byte < 0x80 then some 1
  else if 0xc0 ≤ byte && byte < 0xe0 then some 2
  else if 0xe0 ≤ byte && byte < 0xf0 then some 3
  else if 0xf0 ≤ byte && byte < 0xf8 then some 4
  else none

def escapedByte? (lexer : Lexer) : Option Nat :=
  if lexer.peek == '%' && isHex (lexer.peekAt 1) && isHex (lexer.peekAt 2) then
    some (16 * hexDigit (lexer.peekAt 1) + hexDigit (lexer.peekAt 2))
  else none

def uriTrail (mark : Mark) : Nat → Nat → Lexer → Except Fault (Nat × Lexer)
  | 0, code, lexer => .ok (code, lexer)
  | count + 1, code, lexer =>
      match lexer.escapedByte? with
      | none => .error ⟨.uriEscape, mark⟩
      | some byte =>
          if 0x80 ≤ byte && byte < 0xc0 then uriTrail mark count (256 * code + byte) (lexer.advanceContent 3)
          else .error ⟨.uriTrailingByte, mark⟩

def char? (code : Nat) : Option Char :=
  if code.isValidChar then some (Char.ofNat code) else none

def uriEscape (mark : Mark) (lexer : Lexer) : Except Fault (Char × Lexer) :=
  match lexer.escapedByte? with
  | none => .error ⟨.uriEscape, mark⟩
  | some byte =>
      match encodedWidth? byte with
      | none => .error ⟨.uriLeadingByte, mark⟩
      | some width => do
          let (code, lexer) ← uriTrail mark (width - 1) byte (lexer.advanceContent 3)
          match char? code with
          | some c => .ok (c, lexer)
          | none => .error ⟨.uriCodePoint, mark⟩

def uriCharsFrom (test : Char → Bool) (mark : Mark) : Nat → List Char → Lexer → Except Fault (List Char × Lexer)
  | 0, found, lexer => .ok (found.reverse, lexer)
  | fuel + 1, found, lexer =>
      if test lexer.peek then
        if lexer.peek == '%' then
          match uriEscape mark lexer with
          | .error fault => .error fault
          | .ok (c, lexer) => uriCharsFrom test mark fuel (c :: found) lexer
        else uriCharsFrom test mark fuel (lexer.peek :: found) (lexer.advanceContent 1)
      else .ok (found.reverse, lexer)

def uriChars (test : Char → Bool) (mark : Mark) (lexer : Lexer) : Except Fault (List Char × Lexer) :=
  uriCharsFrom test mark (lexer.rest.length + 1) [] lexer

def tagHandle (inDirective : Bool) (mark : Mark) (lexer : Lexer) : Except Fault (List Char × Lexer) :=
  if lexer.peek == '!' then
    let (name, lexer) := (lexer.advanceContent 1).takeWhile isNameChar
    if lexer.peek == '!' then .ok ( '!' :: name ++ [ '!'], lexer.advanceContent 1)
    else if inDirective && !name.isEmpty then .error ⟨.tagHandleMark, mark⟩
    else .ok ( '!' :: name, lexer)
  else .error ⟨.tagMark, mark⟩

def tagStart (mark : Mark) (lexer : Lexer) : Except Fault (List Char × Lexer) := do
  if lexer.peek == '!' then
    let (rest, lexer) ← uriChars isUriChar mark (lexer.advanceContent 1)
    return ( '!' :: rest, lexer)
  else if isTagChar lexer.peek then uriChars isUriChar mark lexer
  else .error ⟨.tagPrefixChar, mark⟩

def versionNumber (mark : Mark) (lexer : Lexer) : Except Fault Lexer :=
  let (digits, after) := lexer.takeWhile Char.isDigit
  if digits.length > 9 then .error ⟨.longVersionNumber, mark⟩
  else if digits.isEmpty then .error ⟨.versionNumber, mark⟩
  else .ok { after with atLineStart := false }

def versionDirective (mark : Mark) (lexer : Lexer) : Except Fault (TokenKind × Lexer) := do
  let lexer ← versionNumber mark (lexer.skipWhile isGap)
  if lexer.peek == '.' then
    let lexer ← versionNumber mark (lexer.advanceContent 1)
    return (.versionDirective, lexer)
  else .error ⟨.versionPoint, mark⟩

def tagDirective (mark : Mark) (lexer : Lexer) : Except Fault (TokenKind × Lexer) := do
  let (handle, lexer) ← tagHandle true mark (lexer.skipWhile isGap)
  let (start, lexer) ← tagStart mark (lexer.skipWhile isGap)
  if isGapOrEnd lexer.peek then return (.tagDirective (String.ofList handle) (String.ofList start), lexer)
  else .error ⟨.tagDirectiveEnd, mark⟩

/-- A directive; one of an unknown name counts as a tag directive without handle. -/
def directive (lexer : Lexer) : Except Fault Lexer := do
  let mark := lexer.mark
  let lexer ← (lexer.unrollIndent (-1)).removeKey
  let lexer := lexer.forbidKey.advanceContent 1
  let nameMark := lexer.mark
  let (name, lexer) := lexer.takeWhile isNameChar
  if name.isEmpty then .error ⟨.directiveName, nameMark⟩
  else if !isGapOrEnd lexer.peek then .error ⟨.directiveNameChar, nameMark⟩
  else
    let (kind, lexer) ←
      if name = [ 'Y', 'A', 'M', 'L'] then versionDirective mark lexer
      else if name = [ 'T', 'A', 'G'] then tagDirective mark lexer
      else pure (.tagDirective "" "", lexer.skipComment)
    let stop := lexer.mark
    let (_, lexer) ← lexer.skipToLineEnd
    if isBreakOrEnd lexer.peek then return lexer.skipBreak.push ⟨mark, stop⟩ kind
    else .error ⟨.directiveEnd, mark⟩

def verbatimTag (mark : Mark) (lexer : Lexer) : Except Fault (TokenKind × Lexer) := do
  let (uri, lexer) ← uriChars isUriChar mark lexer
  if lexer.peek == '>' then return (.tag "" (String.ofList uri), lexer.advanceContent 1)
  else .error ⟨.verbatimTagEnd, mark⟩

def shortTag (mark : Mark) (lexer : Lexer) : Except Fault (TokenKind × Lexer) := do
  let (handle, lexer) ← tagHandle false mark lexer
  let (rest, lexer) ← uriChars isTagChar mark lexer
  if handle.length ≥ 2 && handle.getLast? == some '!' then
    if rest.isEmpty then .error ⟨.tagUri, mark⟩
    else return (.tag (String.ofList handle) (String.ofList rest), lexer)
  else if handle.tail.isEmpty && rest.isEmpty then return (.tag "" "!", lexer)
  else return (.tag "!" (String.ofList (handle.tail ++ rest)), lexer)

def tag (lexer : Lexer) : Except Fault Lexer := do
  let mark := lexer.mark
  let lexer := lexer.saveKey.forbidKey
  let (kind, lexer) ←
    if lexer.peekAt 1 == '<' then verbatimTag mark (lexer.advanceContent 2) else shortTag mark lexer
  if isGapOrEnd lexer.peek || (lexer.flowLevel > 0 && isFlow lexer.peek) then
    return lexer.push ⟨mark, lexer.mark⟩ kind
  else .error ⟨.tagEnd, mark⟩

def anchor (isAlias : Bool) (lexer : Lexer) : Except Fault Lexer :=
  let mark := lexer.mark
  let (name, lexer) := (lexer.saveKey.forbidKey.advanceContent 1).takeWhile isAnchorChar
  if name.isEmpty then .error ⟨.anchorName, mark⟩
  else
    let name := String.ofList name
    .ok (lexer.push ⟨mark, lexer.mark⟩ (if isAlias then .reference name else .anchor name))

end YamlDialects.Yaml.Lexer

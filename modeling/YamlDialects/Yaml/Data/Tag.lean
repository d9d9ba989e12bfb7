import YamlDialects.Yaml.Data.Input

set_option autoImplicit false

namespace YamlDialects.Yaml.Data

def isTagText (full : Bool) (c : Char) : Bool :=
  isNameChar c || ";/?:@&=+$.!~*'()".toList.contains c || (full && ",[]".toList.contains c)

def leadWidth? (byte : Nat) : Option Nat :=
  if byte < 0x80 then some 1
  else if byte < 0xc0 then none
  else if byte < 0xe0 then some 2
  else if byte < 0xf0 then some 3
  else if byte < 0xf8 then some 4
  else none

def escapedByte? (input : Input) : Option Nat :=
  if input.peek == '%' && isHex (input.peekAt 1) && isHex (input.peekAt 2) then
    some (16 * hexDigit (input.peekAt 1) + hexDigit (input.peekAt 2))
  else none

def trailBytes? : Nat → Input → Option (Bytes × Input)
  | 0, input => some ([], input)
  | count + 1, input => do
      let byte ← escapedByte? input
      if byte / 64 != 2 then failure
      let (others, after) ← trailBytes? count (input.skip 3)
      return (byte.toUInt8 :: others, after)

def escapedChar? (input : Input) : Option (Bytes × Input) := do
  let byte ← escapedByte? input
  let (others, after) ← trailBytes? ((← leadWidth? byte) - 1) (input.skip 3)
  return (byte.toUInt8 :: others, after)

def tagText? (full : Bool) : Nat → Input → Option (Bytes × Input)
  | 0, _ => none
  | fuel + 1, input =>
      if input.peek == '%' then do
        let (found, after) ← escapedChar? input
        let (others, after) ← tagText? full fuel after
        return (found ++ others, after)
      else if isTagText full input.peek then do
        let (others, after) ← tagText? full fuel (input.skip 1)
        return (bytesOf [input.peek] ++ others, after)
      else some ([], input)

def tagRest? (full : Bool) (input : Input) : Option (Bytes × Input) :=
  tagText? full (input.rest.length + 1) input

def nonempty? (found : Bytes × Input) : Option (Bytes × Input) :=
  if found.1.isEmpty then none else some found

def tagHandle? (input : Input) : Option (List Char × Input) :=
  if input.peek != '!' then none
  else
    let (name, after) := (input.skip 1).span isNameChar
    if after.peek == '!' then some ( '!' :: name ++ [ '!'], after.skip 1) else some ( '!' :: name, after)

def isFullHandle (handle : List Char) : Bool :=
  handle.length > 1 && handle.getLast? == some '!'

def verbatimTag? (input : Input) : Option (Token × Input) := do
  let (rest, after) ← (tagRest? true (input.skip 2)).bind nonempty?
  if after.peek == '>' then return (.tag "" rest, after.skip 1) else failure

def shortTag? (input : Input) : Option (Token × Input) := do
  let (handle, after) ← tagHandle? input
  if isFullHandle handle then
    let (rest, after) ← (tagRest? false after).bind nonempty?
    return (.tag (String.ofList handle) rest, after)
  else
    let (rest, after) ← tagRest? false after
    let rest := bytesOf handle.tail ++ rest
    return (if rest.isEmpty then .tag "" (bytesOf handle) else .tag "!" rest, after)

def tag? (inFlow : Bool) (input : Input) : Option (Token × Input) := do
  let (token, after) ← if input.peekAt 1 == '<' then verbatimTag? input else shortTag? input
  if isSeparating after.peek || (inFlow && after.peek == ',') then return (token, after) else failure

def endsName (c : Char) : Bool :=
  isSeparating c || "?:,]\x7d%@`".toList.contains c

def name? (input : Input) : Option (String × Input) :=
  let (name, after) := (input.skip 1).span isNameChar
  if !name.isEmpty && endsName after.peek then some (String.ofList name, after) else none

def versionNumber? (input : Input) : Option (Nat × Input) :=
  let (digits, after) := input.span Char.isDigit
  if digits.isEmpty || digits.length > 9 then none
  else some (digits.foldl (fun total c => 10 * total + (c.toNat - 48)) 0, after)

def versionDirective? (input : Input) : Option (Token × Input) := do
  let (major, after) ← versionNumber? (input.skipWhile isGap)
  if after.peek != '.' then failure
  let (minor, after) ← versionNumber? (after.skip 1)
  return (.versionDirective major minor, after)

def tagDirective? (input : Input) : Option (Token × Input) := do
  let (handle, after) ← tagHandle? (input.skipWhile isGap)
  if !(isFullHandle handle || handle.length == 1) || !isGap after.peek then failure
  let (start, after) ← (tagRest? true (after.skipWhile isGap)).bind nonempty?
  if isSeparating after.peek then return (.tagDirective (String.ofList handle) start, after) else failure

def directive? (input : Input) : Option (Token × Input) := do
  let (name, after) := (input.skip 1).span isNameChar
  if !isSeparating after.peek then failure
  let (token, after) ←
    if name == "YAML".toList then versionDirective? after
    else if name == "TAG".toList then tagDirective? after
    else none
  return (token, ← after.skipLineEnd?)

end YamlDialects.Yaml.Data

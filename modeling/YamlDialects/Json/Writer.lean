import YamlDialects.Json.Basic

set_option autoImplicit false

namespace YamlDialects.Json

def hexPadded (width code : Nat) : List Char :=
  let digits := Nat.toDigits 16 code
  List.replicate (width - digits.length) '0' ++ digits

def escapeChar (c : Char) : List Char :=
  if c = '"' then [ '\\', '"']
  else if c = '\\' then [ '\\', '\\']
  else if c = '\n' then [ '\\', 'n']
  else if c = '\r' then [ '\\', 'r']
  else if c = '\t' then [ '\\', 't']
  else if c.toNat < 0x20 then [ '\\', 'u'] ++ hexPadded 4 c.toNat
  else [c]

def writeString (text : String) : String :=
  String.ofList ([ '"'] ++ text.toList.flatMap escapeChar ++ [ '"'])

mutual

def write : Json → String
  | .null => "null"
  | .bool true => "true"
  | .bool false => "false"
  | .int value => toString value
  | .decimal literal => literal
  | .string value => writeString value
  | .array items => "[" ++ writeItems items ++ "]"
  | .object members => "\x7b" ++ writeMembers members ++ "\x7d"
  | .garbled => "null"

def writeItems : List Json → String
  | [] => ""
  | [item] => write item
  | item :: rest => write item ++ "," ++ writeItems rest

def writeMembers : List (String × Json) → String
  | [] => ""
  | [(name, value)] => writeString name ++ ":" ++ write value
  | (name, value) :: rest => writeString name ++ ":" ++ write value ++ "," ++ writeMembers rest

end

end YamlDialects.Json

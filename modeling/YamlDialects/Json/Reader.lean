import YamlDialects.Json.Basic

set_option autoImplicit false

namespace YamlDialects.Json

def isSpace (c : Char) : Bool :=
  c == ' ' || c == '\n' || c == '\t' || c == '\r'

def skipSpace (chars : List Char) : List Char :=
  chars.dropWhile isSpace

def hexValue? (c : Char) : Option Nat :=
  if '0' ≤ c ∧ c ≤ '9' then some (c.toNat - 48)
  else if 'a' ≤ c ∧ c ≤ 'f' then some (c.toNat - 87)
  else if 'A' ≤ c ∧ c ≤ 'F' then some (c.toNat - 55)
  else none

def hexNumber? (digits : List Char) : Option Nat :=
  digits.foldlM (fun total c => (hexValue? c).map (16 * total + ·)) 0

def shortEscape? : Char → Option Char
  | '"' => some '"'
  | '\\' => some '\\'
  | '/' => some '/'
  | 'b' => some (Char.ofNat 8)
  | 'f' => some (Char.ofNat 12)
  | 'n' => some '\n'
  | 'r' => some '\r'
  | 't' => some '\t'
  | _ => none

def highSurrogate (unit : Nat) : Bool :=
  0xd800 ≤ unit && unit < 0xdc00

def lowSurrogate (unit : Nat) : Bool :=
  0xdc00 ≤ unit && unit < 0xe000

def unitEscape? : List Char → Option (Nat × List Char)
  | '\\' :: 'u' :: a :: b :: c :: d :: rest => (hexNumber? [a, b, c, d]).map (·, rest)
  | _ => none

/-- The character of one unit or of a pair of surrogates; none for a surrogate without its partner. -/
def unitChar (unit : Nat) (rest : List Char) : Option Char × List Char :=
  if highSurrogate unit then
    match unitEscape? rest with
    | some (low, after) =>
        if lowSurrogate low then
          (some (Char.ofNat (0x10000 + 0x400 * (unit - 0xd800) + (low - 0xdc00))), after)
        else (none, rest)
    | none => (none, rest)
  else if lowSurrogate unit then (none, rest)
  else (some (Char.ofNat unit), rest)

/-- Reads the rest of a string after its opening quote. The text so far is missing if an escape made none. -/
def readChars : Nat → Option (List Char) → List Char → Option (Option String × List Char)
  | 0, _, _ => none
  | _ + 1, done, '"' :: rest => some (done.map fun found => String.ofList found.reverse, rest)
  | fuel + 1, done, '\\' :: 'u' :: rest =>
      match unitEscape? ( '\\' :: 'u' :: rest) with
      | none => none
      | some (unit, after) =>
          let (c, after) := unitChar unit after
          readChars fuel (c.bind fun c => done.map (c :: ·)) after
  | fuel + 1, done, '\\' :: c :: rest =>
      match shortEscape? c with
      | some plain => readChars fuel (done.map (plain :: ·)) rest
      | none => none
  | fuel + 1, done, c :: rest =>
      if c.toNat < 0x20 || c == '\\' then none else readChars fuel (done.map (c :: ·)) rest
  | _ + 1, _, [] => none

def readString (chars : List Char) : Option (Option String × List Char) :=
  readChars (chars.length + 1) (some []) chars

def ofText : Option String → Json
  | some text => .string text
  | none => .garbled

def ofMembers : Option (List (String × Json)) → Json
  | some members => .object members
  | none => .garbled

def addMember (name : Option String) (value : Json) (members : Option (List (String × Json))) :
    Option (List (String × Json)) := do
  return (← name, value) :: (← members)

def digitsValue (digits : List Char) : Nat :=
  digits.foldl (fun total c => 10 * total + (c.toNat - 48)) 0

def splitFraction : List Char → Option (List Char × List Char)
  | '.' :: rest =>
      let digits := rest.takeWhile Char.isDigit
      if digits.isEmpty then none else some ( '.' :: digits, rest.dropWhile Char.isDigit)
  | rest => some ([], rest)

def splitExponent : List Char → Option (List Char × List Char)
  | mark :: rest =>
      if mark == 'e' || mark == 'E' then
        let (sign, rest) := match rest with
          | '+' :: after => ([ '+'], after)
          | '-' :: after => ([ '-'], after)
          | after => ([], after)
        let digits := rest.takeWhile Char.isDigit
        if digits.isEmpty then none else some (mark :: sign ++ digits, rest.dropWhile Char.isDigit)
      else some ([], mark :: rest)
  | [] => some ([], [])

def numberOf (negative : Bool) (digits fraction exponent : List Char) : Json :=
  let sign := if negative then [ '-'] else []
  let literal := String.ofList (sign ++ digits ++ fraction ++ exponent)
  let value := digitsValue digits
  if !fraction.isEmpty || !exponent.isEmpty then .decimal literal
  else if negative then
    if value ≠ 0 ∧ Width.isSigned 64 (-(value : Int)) then .int (-(value : Int)) else .decimal literal
  else if Width.isUnsigned 64 value then .int value else .decimal literal

def readNumber (chars : List Char) : Option (Json × List Char) :=
  let (negative, rest) := match chars with
    | '-' :: after => (true, after)
    | after => (false, after)
  let digits := rest.takeWhile Char.isDigit
  if digits.isEmpty || (digits.head? == some '0' && digits.length > 1) then none
  else
    match splitFraction (rest.dropWhile Char.isDigit) with
    | none => none
    | some (fraction, rest) =>
        match splitExponent rest with
        | none => none
        | some (exponent, rest) => some (numberOf negative digits fraction exponent, rest)

mutual

/-- Reads one value; each call below it has consumed a character, so the length of the text is fuel enough. -/
def readValue : Nat → List Char → Option (Json × List Char)
  | 0, _ => none
  | fuel + 1, chars =>
      match skipSpace chars with
      | 'n' :: 'u' :: 'l' :: 'l' :: rest => some (.null, rest)
      | 't' :: 'r' :: 'u' :: 'e' :: rest => some (.bool true, rest)
      | 'f' :: 'a' :: 'l' :: 's' :: 'e' :: rest => some (.bool false, rest)
      | '"' :: rest => (readString rest).map fun (text, rest) => (ofText text, rest)
      | '[' :: rest =>
          match skipSpace rest with
          | ']' :: rest => some (.array [], rest)
          | rest => (readItems fuel rest).map fun (items, rest) => (.array items, rest)
      | '\x7b' :: rest =>
          match skipSpace rest with
          | '\x7d' :: rest => some (.object [], rest)
          | rest => (readMembers fuel rest).map fun (members, rest) => (ofMembers members, rest)
      | rest => readNumber rest

def readItems : Nat → List Char → Option (List Json × List Char)
  | 0, _ => none
  | fuel + 1, chars =>
      match readValue fuel chars with
      | none => none
      | some (item, rest) =>
          match skipSpace rest with
          | ']' :: rest => some ([item], rest)
          | ',' :: rest => (readItems fuel rest).map fun (items, rest) => (item :: items, rest)
          | _ => none

def readMembers : Nat → List Char → Option (Option (List (String × Json)) × List Char)
  | 0, _ => none
  | fuel + 1, chars =>
      match skipSpace chars with
      | '"' :: rest =>
          match readString rest with
          | none => none
          | some (name, rest) =>
              match skipSpace rest with
              | ':' :: rest =>
                  match readValue fuel rest with
                  | none => none
                  | some (value, rest) =>
                      match skipSpace rest with
                      | '\x7d' :: rest => some (addMember name value (some []), rest)
                      | ',' :: rest =>
                          (readMembers fuel rest).map fun (members, rest) =>
                            (addMember name value members, rest)
                      | _ => none
              | _ => none
      | _ => none

end

def readLoose? (text : String) : Option Json :=
  let chars := text.toList
  match readValue (2 * chars.length + 2) chars with
  | some (value, rest) => if (skipSpace rest).isEmpty then some value else none
  | none => none

def read? (text : String) : Option Json :=
  (readLoose? text).filter isReadable

end YamlDialects.Json

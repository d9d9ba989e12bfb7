import YamlDialects.Json.Reader

set_option autoImplicit false

namespace YamlDialects

structure Authority where
  user : String := ""
  host : String := ""
  socket : Option Nat := none
deriving DecidableEq, Inhabited

structure Address where
  scheme : String
  authority : Option Authority
  path : String
  suffix : String
deriving DecidableEq, Inhabited

def Authority.render (authority : Authority) : String :=
  authority.user ++ authority.host ++ ((authority.socket.map fun number => ":" ++ toString number).getD "")

namespace Address

/-- Two slashes at the start of a path would be read as the mark of a host, so a dot segment stands before
them where there is no host. -/
def renderBody (authority : Option Authority) (path : String) : String :=
  match authority with
  | some authority => "//" ++ authority.render ++ path
  | none => if "//".isPrefixOf path then "/." ++ path else path

def render (address : Address) : String :=
  address.scheme ++ ":" ++ renderBody address.authority address.path ++ address.suffix

inductive SchemeKind where
  | file
  | web (socket : Nat)
  | other
deriving DecidableEq

def SchemeKind.of : String → SchemeKind
  | "file" => .file
  | "http" | "ws" => .web 80
  | "https" | "wss" => .web 443
  | "ftp" => .web 21
  | _ => .other

end Address
end YamlDialects

namespace YamlDialects.Address

def isControl (c : Char) : Bool :=
  c.toNat < 0x20 || c.toNat ≥ 0x7f

def upperHex (value : Nat) : Char :=
  (Nat.digitChar value).toUpper

def escapeByte (byte : UInt8) : List Char :=
  [ '%', upperHex (byte.toNat / 16), upperHex (byte.toNat % 16)]

def bytesOf (c : Char) : List UInt8 :=
  (String.singleton c).toUTF8.toList

def escape (reserved chars : List Char) : List Char :=
  chars.flatMap fun c => if isControl c || reserved.contains c then (bytesOf c).flatMap escapeByte else [c]

def fragmentReserved : List Char :=
  [ ' ', '"', '<', '>', '\x60']

def pathReserved : List Char :=
  fragmentReserved ++ [ '#', '?', '\x7b', '\x7d']

def userReserved : List Char :=
  pathReserved ++ [ '/', ':', ';', '=', '@', '[', '\\', ']', '^', '|']

def queryReserved (kind : SchemeKind) : List Char :=
  [ ' ', '"', '#', '<', '>'] ++ (if kind = .other then [] else [ '\x27'])

def unescape : List Char → List UInt8
  | [] => []
  | '%' :: first :: second :: rest =>
      match Json.hexValue? first, Json.hexValue? second with
      | some high, some low => UInt8.ofNat (16 * high + low) :: unescape rest
      | _, _ => bytesOf '%' ++ unescape (first :: second :: rest)
  | c :: rest => bytesOf c ++ unescape rest

def suffixOf (kind : SchemeKind) : List Char → List Char
  | '?' :: rest =>
      let query := rest.takeWhile (· != '#')
      '?' :: escape (queryReserved kind) query ++
        (match rest.dropWhile (· != '#') with
        | '#' :: fragment => '#' :: escape fragmentReserved fragment
        | _ => [])
  | '#' :: fragment => '#' :: escape fragmentReserved fragment
  | _ => []

end YamlDialects.Address

namespace YamlDialects.Address

def divide (separator : Char) : List Char → List (List Char)
  | [] => [[]]
  | c :: rest =>
      if c = separator then [] :: divide separator rest
      else
        match divide separator rest with
        | first :: others => (c :: first) :: others
        | [] => [[c]]

def digitsValue? (radix : Nat) (digits : List Char) : Option Nat :=
  digits.foldlM (fun total c => do
    let value ← Json.hexValue? c
    if value < radix then return radix * total + value else failure) 0

def numberPart? (chars : List Char) : Option Nat :=
  match chars with
  | [] => none
  | '0' :: 'x' :: digits => digitsValue? 16 digits
  | '0' :: 'X' :: digits => digitsValue? 16 digits
  | '0' :: digit :: digits => digitsValue? 8 (digit :: digits)
  | digits => digitsValue? 10 digits

def nameParts (name : List Char) : List (List Char) :=
  let parts := divide '.' name
  if parts.length > 1 && parts.getLast? == some [] then parts.dropLast else parts

def endsInNumber (name : List Char) : Bool :=
  match (nameParts name).getLast? with
  | some last => (!last.isEmpty && last.all Char.isDigit) || (numberPart? last).isSome
  | none => false

/-- Four bytes as up to four numbers, of which the last stands for all bytes that are left. -/
def fourBytes? (name : List Char) : Option Nat := do
  let numbers ← (nameParts name).mapM numberPart?
  let last ← numbers.getLast?
  let others := numbers.dropLast
  if numbers.length > 4 || others.any (· > 255) || last ≥ Nat.pow 256 (4 - others.length) then failure
  return others.zipIdx.foldl (fun total (number, position) => total + number * Nat.pow 256 (3 - position)) last

def renderFourBytes (value : Nat) : String :=
  ".".intercalate ([3, 2, 1, 0].map fun position => toString (value / Nat.pow 256 position % 256))

def piece? (digits : List Char) : Option Nat :=
  if digits.isEmpty || digits.length > 4 then none else digitsValue? 16 digits

def byte? (digits : List Char) : Option Nat := do
  if digits.isEmpty || (digits.length > 1 && digits.head? == some '0') then failure
  let value ← digitsValue? 10 digits
  if value < 256 then return value else failure

def lastPieces? (text : List Char) : Option (List Nat) :=
  if text.contains '.' then
    match (divide '.' text).mapM byte? with
    | some [a, b, c, d] => some [256 * a + b, 256 * c + d]
    | _ => none
  else (piece? text).map ([·])

def pieces? (text : List Char) : Option (List Nat) :=
  if text.isEmpty then some []
  else do
    let parts := divide ':' text
    return (← parts.dropLast.mapM piece?) ++ (← lastPieces? (parts.getLast?.getD []))

def gap? : List Char → Option (List Char × List Char)
  | ':' :: ':' :: rest => some ([], rest)
  | c :: rest => (gap? rest).map fun (before, after) => (c :: before, after)
  | [] => none

def eightPieces? (text : List Char) : Option (List Nat) := do
  match gap? text with
  | some (before, after) =>
      if before.contains '.' then failure
      let first ← pieces? before
      let last ← pieces? after
      if first.length + last.length > 7 then failure
      return first ++ List.replicate (8 - first.length - last.length) 0 ++ last
  | none =>
      let found ← pieces? text
      if found.length = 8 then return found else failure

def zeroRun (pieces : List Nat) : Nat :=
  (pieces.takeWhile (· == 0)).length

def longestRun? (pieces : List Nat) : Option (Nat × Nat) :=
  (List.range pieces.length).foldl (fun best start =>
    let length := zeroRun (pieces.drop start)
    if length > (best.map (·.2)).getD 1 then some (start, length) else best) none

def hexText (value : Nat) : String :=
  String.ofList (Nat.toDigits 16 value)

def renderPieces (pieces : List Nat) : String :=
  let colons := fun (shown : List Nat) => ":".intercalate (shown.map hexText)
  match longestRun? pieces with
  | some (start, length) => colons (pieces.take start) ++ "::" ++ colons (pieces.drop (start + length))
  | none => colons pieces

def bracketed? (text : List Char) : Option String := do
  if text.getLast? != some ']' then failure
  return "[" ++ renderPieces (← eightPieces? (text.drop 1).dropLast) ++ "]"

end YamlDialects.Address

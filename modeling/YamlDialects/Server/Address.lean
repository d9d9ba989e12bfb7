import YamlDialects.Server.Address.Basic
import YamlDialects.Server.Address.Domain
import YamlDialects.Width

set_option autoImplicit false

namespace YamlDialects.Address

def host? (chars : List Char) : Option String :=
  if chars.head? == some '[' then bracketed? chars
  else do
    let text ← String.fromUTF8? ⟨(unescape chars).toArray⟩
    let name ← domain? text.toList
    if name.isEmpty then failure
    else if endsInNumber name then return renderFourBytes (← fourBytes? name)
    else return String.ofList name

def isForbiddenInOpaque (c : Char) : Bool :=
  c.toNat = 0 || " #/:<>?@[\\]^|".toList.contains c

def opaqueHost? (chars : List Char) : Option String :=
  if chars.head? == some '[' then bracketed? chars
  else if chars.any isForbiddenInOpaque then none
  else some (String.ofList (escape [] chars))

def splitSocket (inBrackets : Bool) : List Char → List Char × Option (List Char)
  | [] => ([], none)
  | c :: rest =>
      if c == ':' && !inBrackets then ([], some rest)
      else
        let (host, after) := splitSocket (if c == '[' then true else if c == ']' then false else inBrackets) rest
        (c :: host, after)

def socket? (chars : List Char) : Option (Option Nat × List Char) :=
  let digits := chars.takeWhile Char.isDigit
  let rest := chars.dropWhile Char.isDigit
  let value : Nat := digits.foldl (fun total c => 10 * total + (c.toNat - 48)) 0
  if !Width.isUnsigned 16 value || !(rest.isEmpty || rest.head? == some '\\') then none
  else some (if digits.isEmpty then none else some value, rest)

def splitUser (chars : List Char) : Option (List Char) × List Char :=
  if chars.contains '@' then
    let host := (chars.reverse.takeWhile (· != '@')).reverse
    (some (chars.take (chars.length - host.length - 1)), host)
  else (none, chars)

def userPart (chars : List Char) : String :=
  let user := escape userReserved (chars.takeWhile (· != ':'))
  let password := escape userReserved ((chars.dropWhile (· != ':')).drop 1)
  if user.isEmpty && password.isEmpty then ""
  else String.ofList (user ++ (if password.isEmpty then [] else ':' :: password) ++ [ '@'])

/-- The host part of an address, and what is left of the text. Only a scheme that is not known may do
without a host, and then there is neither a user nor a colon. -/
def authority? (kind : SchemeKind) (chars : List Char) : Option (Authority × List Char) := do
  let (written, afterUser) := splitUser chars
  let (host, number) := splitSocket false afterUser
  let user := (written.map userPart).getD ""
  let shown ← if kind = .other then opaqueHost? host else host? host
  if shown.isEmpty && (number.isSome || !user.isEmpty) then failure
  let (socket, rest) ← match number with
    | some number => socket? number
    | none => some (none, [])
  let usual := match kind with
    | .web usual => some usual
    | _ => none
  return (⟨user, shown, if socket == usual then none else socket⟩, rest)

def fileHost? (chars : List Char) : Option String := do
  if chars.isEmpty then return ""
  let host ← host? chars
  return if host = "localhost" then "" else host

end YamlDialects.Address

namespace YamlDialects.Address

def segments : List Char → List (List Char)
  | [] => [[]]
  | c :: rest =>
      if c = '/' then [] :: segments rest
      else
        match segments rest with
        | first :: others => (c :: first) :: others
        | [] => [[c]]

def isDot (segment : List Char) : Bool :=
  ["." , "%2e"].contains (String.ofList (segment.map Char.toLower))

def isDoubleDot (segment : List Char) : Bool :=
  ["..", ".%2e", "%2e.", "%2e%2e"].contains (String.ofList (segment.map Char.toLower))

def isDrive : List Char → Bool
  | [letter, mark] => letter.isAlpha && (mark == ':' || mark == '|')
  | _ => false

def placed (isFile : Bool) (done : List (List Char)) (segment : List Char) : List Char :=
  if isFile && done.isEmpty && isDrive segment then segment.take 1 ++ [ ':'] else segment

def above : List (List Char) → List (List Char)
  | [] => []
  | last :: others => if isDrive last then last :: others else others

def resolve (isFile : Bool) : List (List Char) → List (List Char) → List (List Char)
  | done, [] => done.reverse
  | done, [last] =>
      if isDoubleDot last then ([] :: above done).reverse
      else if isDot last then ([] :: done).reverse
      else (placed isFile done last :: done).reverse
  | done, segment :: rest =>
      if isDoubleDot segment then resolve isFile (above done) rest
      else if isDot segment then resolve isFile done rest
      else resolve isFile (placed isFile done segment :: done) rest

def pathSegments (isFile : Bool) (chars : List Char) : List (List Char) :=
  let inner := match chars with
    | '/' :: rest => rest
    | chars => chars
  resolve isFile [] (segments (escape pathReserved inner))

def joined (segments : List (List Char)) : List Char :=
  segments.flatMap ( '/' :: ·)

def absolutePath (chars : List Char) : List Char :=
  joined (pathSegments false chars)

/-- The path of a file in normal form: slashes at its start count as one. The flag tells of a drive at its
start, with which there is no host. -/
def filePath (chars : List Char) : List Char × Bool :=
  let found := pathSegments true chars
  let isOnDrive := found.head?.any isDrive
  match found.dropWhile List.isEmpty with
  | [] => ([ '/'], isOnDrive)
  | shown => (joined shown, isOnDrive)

def splitBytes : List UInt8 → List (List UInt8)
  | [] => [[]]
  | byte :: rest =>
      if byte = 47 then [] :: splitBytes rest
      else
        match splitBytes rest with
        | first :: others => (byte :: first) :: others
        | [] => [[byte]]

def steps? : List UInt8 → Option (List (List UInt8))
  | [] => none
  | byte :: rest =>
      if byte = 47 then some ((splitBytes rest).filter fun step => step != [] && step != [46]) else none

def names (address : Address) (file : String) : Bool :=
  let isLocal := address.authority.all fun authority => authority.host = "" || authority.host = "localhost"
  isLocal &&
    (match steps? (unescape address.path.toList), steps? file.toUTF8.toList with
    | some first, some second => first == second
    | _, _ => false)

end YamlDialects.Address

namespace YamlDialects.Address

def strip (chars : List Char) : List Char :=
  let isOuter := fun (c : Char) => c.toNat ≤ 0x20
  (((chars.dropWhile isOuter).reverse.dropWhile isOuter).reverse).filter fun c =>
    c != '\t' && c != '\n' && c != '\r'

def splitScheme? (chars : List Char) : Option (String × List Char) :=
  let name := chars.takeWhile (· != ':')
  let isPart := fun (c : Char) => c.isAlphanum || c == '+' || c == '-' || c == '.'
  if name.head?.any Char.isAlpha && name.all isPart && name.length < chars.length then
    some (String.ofList (name.map Char.toLower), chars.drop (name.length + 1))
  else none

def splitHost (chars : List Char) : List Char × List Char :=
  (chars.takeWhile (· != '/'), chars.dropWhile (· != '/'))

def slashed (chars : List Char) : List Char :=
  chars.map fun c => if c = '\\' then '/' else c

def fileBody? (chars : List Char) : Option (Option Authority × List Char) :=
  match chars with
  | '/' :: '/' :: rest => do
      let (host, path) := if isDrive (splitHost rest).1 then ([], rest) else splitHost rest
      let shown ← fileHost? host
      let (path, isOnDrive) := filePath path
      return (some { host := if isOnDrive then "" else shown }, path)
  | rest => some (some {}, (filePath rest).1)

/-- The host part and the path of what stands between the scheme and the suffix. An at sign alone may
stand for an empty host only where the text ends. -/
def body? (kind : SchemeKind) (hasSuffix : Bool) (chars : List Char) : Option (Option Authority × List Char) :=
  match kind with
  | .file => fileBody? (slashed chars)
  | .web _ => do
      let (host, path) := splitHost ((slashed chars).dropWhile (· = '/'))
      let (authority, _) ← authority? kind host
      return (some authority, absolutePath path)
  | .other =>
      match chars with
      | '/' :: '/' :: rest => do
          let (host, path) := splitHost rest
          if host == [ '@'] && (hasSuffix || !path.isEmpty) then failure
          let (authority, left) ← authority? kind host
          let path := left ++ path
          return (some authority, if path.isEmpty then [] else absolutePath path)
      | '/' :: _ => some (none, absolutePath chars)
      | _ => some (none, escape [] chars)

def ofText? (text : String) : Option Address := do
  let (scheme, rest) ← splitScheme? (strip text.toList)
  let kind := SchemeKind.of scheme
  let isInner := fun (c : Char) => c != '?' && c != '#'
  let suffix := rest.dropWhile isInner
  let (authority, path) ← body? kind (!suffix.isEmpty) (rest.takeWhile isInner)
  return ⟨scheme, authority, String.ofList path, String.ofList (suffixOf kind suffix)⟩

end YamlDialects.Address

import YamlDialects.Server.Address.Basic
import YamlDialects.Server.Address.Mapping
import YamlDialects.Text.Normalization
import YamlDialects.Text.Punycode
import YamlDialects.Text.Unicode.Direction
import YamlDialects.Text.Unicode.Query

set_option autoImplicit false

namespace YamlDialects.Address

open Text (CharSet NamedSet)

def isForbiddenInName (c : Char) : Bool :=
  c.toNat ≤ 0x20 || c.toNat = 0x7f || "%#/:<>?@[\\]^|".toList.contains c

/-- Characters that are replaced: the first to the last in steps, each by what is as far from the first
replacement; a single character may have several. -/
structure Replacement where
  first : Nat
  last : Nat
  step : Nat
  shown : List Nat

def hexNumber (digits : List Char) : Nat :=
  digits.foldl (fun total c => 16 * total + NamedSet.hexValue c) 0

def Replacement.ofText (text : List Char) : Replacement :=
  let source := text.takeWhile (· != '>')
  let shown := (divide '.' (text.drop (source.length + 1))).map hexNumber
  let step := if source.contains '/' then 2 else 1
  match divide '-' (source.takeWhile (· != '/')) with
  | [first, last] => ⟨hexNumber first, hexNumber last, step, shown⟩
  | _ => ⟨hexNumber source, hexNumber source, step, shown⟩

def Replacement.shownFor? (replacement : Replacement) (code : Nat) : Option (List Nat) :=
  if replacement.first ≤ code && code ≤ replacement.last && (code - replacement.first) % replacement.step == 0 then
    some (replacement.shown.map (· + (code - replacement.first)))
  else none

structure NameTables where
  ignored : CharSet
  refused : CharSet
  replaced : List Replacement

def nameTables : Unit → NameTables := fun _ => {
  ignored := (NamedSet.mk [] ignoredInNames).charSet
  refused := (NamedSet.mk [] refusedInNames).charSet
  replaced := replacedInNames.flatMap fun row => (divide ' ' row.toList).map Replacement.ofText }

def NameTables.mapped? (tables : NameTables) (c : Char) : Option (List Nat) :=
  let code := c.toNat
  if code < 0x80 then some [c.toLower.toNat]
  else if tables.refused.contains code then none
  else if tables.ignored.contains code then some []
  else some ((tables.replaced.findSome? (·.shownFor? code)).getD [code])

def directionOf (code : Nat) : String :=
  ((Text.directions.find? (·.charSet.contains code)).bind (·.names.head?)).getD "l"

def withoutMarks (directions : List String) : List String :=
  (directions.reverse.dropWhile (· == "nsm")).reverse

def isDirected (label : List Nat) : Bool :=
  let directions := label.map directionOf
  let last := (withoutMarks directions).getLast?
  match directions.head? with
  | none => true
  | some "l" =>
      directions.all (["l", "en", "es", "cs", "et", "on", "bn", "nsm"].contains ·) &&
        (last == some "l" || last == some "en")
  | some first =>
      (first == "r" || first == "al") &&
        directions.all (["r", "al", "an", "en", "es", "cs", "et", "on", "bn", "nsm"].contains ·) &&
        last.any (["r", "al", "en", "an"].contains ·) && !(directions.contains "en" && directions.contains "an")

def runsLeft (label : List Nat) : Bool :=
  label.any fun code => ["r", "al", "an"].contains (directionOf code)

def joins (types : List String) (code : Nat) : Bool :=
  types.any fun type => ((NamedSet.find? Text.joiningTypes type).getD {}).contains code

/-- Whether the joiners of a label stand where they have an effect: after a mark that suppresses a vowel,
or, for one of them, between letters that join. -/
def joinersFit (before : List Nat) : List Nat → Bool
  | [] => true
  | code :: rest =>
      let afterMark := before.head?.any fun last => Text.combiningClass last == 9
      let between :=
        ((before.dropWhile (joins ["t"])).head?.any (joins ["l", "d"])) &&
          ((rest.dropWhile (joins ["t"])).head?.any (joins ["r", "d"]))
      let fits :=
        if code == 0x200d then afterMark else if code == 0x200c then afterMark || between else true
      fits && joinersFit (code :: before) rest

def isMark (code : Nat) : Bool :=
  ((CharSet.ofCategory? "m").getD {}).contains code

def isLabel (label : List Nat) : Bool :=
  !(label.head?.any isMark) && joinersFit [] label

def isAsciiLabel (label : List Nat) : Bool :=
  label.all (· < 0x80)

def asciiMark : List Char :=
  "xn--".toList

def label? (tables : NameTables) (label : List Char) : Option (List Nat) :=
  if asciiMark.isPrefixOf label then do
    let chars ← Text.Punycode.decode? (label.drop asciiMark.length)
    let codes := chars.map Char.toNat
    let isMapped := chars.any fun c => c.toNat ≥ 0x80 && tables.mapped? c != some [c.toNat]
    if codes.isEmpty || isAsciiLabel codes || isMapped || Text.normalized codes != codes then none else some codes
  else some (label.map Char.toNat)

def asciiLabel (label : List Nat) : List Char :=
  let chars := label.map Char.ofNat
  if isAsciiLabel label then chars else asciiMark ++ Text.Punycode.encode chars

def mappedName? (name : List Char) : Option (List Char) := do
  let tables := nameTables ()
  let mapped ← name.mapM tables.mapped?
  let labels ← (divide '.' ((Text.normalized mapped.flatten).map Char.ofNat)).mapM (label? tables)
  let areDirected := !(labels.any runsLeft) || labels.all isDirected
  if labels.all (fun label => isAsciiLabel label || isLabel label) && areDirected then
    return ".".toList.intercalate (labels.map asciiLabel)
  else failure

def isPlainName (name : List Char) : Bool :=
  name.all (·.toNat < 0x80) && !((divide '.' name).any asciiMark.isPrefixOf)

def domain? (name : List Char) : Option (List Char) := do
  let lower := name.map Char.toLower
  let shown ← if isPlainName lower then some lower else mappedName? name
  if shown.any isForbiddenInName then failure else return shown

end YamlDialects.Address

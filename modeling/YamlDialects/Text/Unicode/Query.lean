import YamlDialects.Text.Unicode.Age
import YamlDialects.Text.Unicode.Break
import YamlDialects.Text.Unicode.Category
import YamlDialects.Text.Unicode.Property
import YamlDialects.Text.Unicode.Script

set_option autoImplicit false

namespace YamlDialects.Text.CharSet

/-- Names are compared without case, separators and an "is" in front, and only their ASCII characters
count. What would be left of "isc" is the name of something else, so it is kept. -/
def normalizedName (name : List Char) : String :=
  let (marked, rest) := match name with
    | first :: second :: rest =>
        if first.toLower == 'i' && second.toLower == 's' then (true, rest) else (false, name)
    | _ => (false, name)
  let kept := (rest.filter fun c => c != ' ' && c != '_' && c != '-' && c.toNat < 0x80).map Char.toLower
  if marked && kept == [ 'c'] then "isc" else String.ofList kept

def ofCategory? (name : String) : Option CharSet :=
  match name with
  | "any" => some (.range 0 lastCode)
  | "assigned" => (NamedSet.find? categories "cn").map complement
  | "ascii" => some (.range 0 0x7f)
  | _ =>
      match categoryGroups.find? (·.1.contains name) with
      | some (_, parts) => some (.ofRanges (parts.flatMap fun part => ((NamedSet.find? categories part).getD {}).ranges))
      | none => NamedSet.find? categories name

def ofScriptExtension? (name : String) : Option CharSet :=
  (scripts.find? (·.names.contains name)).map fun script =>
    (script.names.head?.bind (NamedSet.find? scriptExtensions)).getD script.charSet

def ofAge? (name : String) : Option CharSet :=
  if ages.any (·.names.contains name) then
    let earlier := ages.takeWhile fun age => !age.names.contains name
    some (((NamedSet.find? ages name).getD {}).union (.ofRanges (earlier.flatMap (·.charSet.ranges))))
  else none

def ofName? (name : List Char) : Option CharSet :=
  let name := normalizedName name
  (NamedSet.find? properties name).orElse fun _ =>
    (ofCategory? name).orElse fun _ => NamedSet.find? scripts name

def ofValue? (property value : List Char) : Option CharSet :=
  let value := normalizedName value
  match normalizedName property with
  | "gc" => ofCategory? value
  | "generalcategory" => ofCategory? value
  | "sc" => NamedSet.find? scripts value
  | "script" => NamedSet.find? scripts value
  | "scx" => ofScriptExtension? value
  | "scriptextensions" => ofScriptExtension? value
  | "age" => ofAge? value
  | "gcb" => NamedSet.find? graphemeBreaks value
  | "graphemeclusterbreak" => NamedSet.find? graphemeBreaks value
  | "wb" => NamedSet.find? wordBreaks value
  | "wordbreak" => NamedSet.find? wordBreaks value
  | "sb" => NamedSet.find? sentenceBreaks value
  | "sentencebreak" => NamedSet.find? sentenceBreaks value
  | _ => none

def alphabetic : CharSet :=
  (NamedSet.find? properties "alphabetic").getD {}

def numeric : CharSet :=
  (ofCategory? "n").getD {}

end YamlDialects.Text.CharSet

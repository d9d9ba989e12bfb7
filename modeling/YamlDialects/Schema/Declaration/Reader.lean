import YamlDialects.Schema.Declaration.Basic
import YamlDialects.Yaml.Data.Value

/-!
Reading dialect declarations from YAML. Outside the description of a kind every scalar counts as its
text; inside it scalars are resolved first, and only strings are text. Unknown fields are skipped, but no
known field may be given twice.
-/

set_option autoImplicit false

namespace YamlDialects
namespace Declaration

open Yaml (Value)
open Yaml.Data (Content Document Reading)
open Yaml.Data.Reading (follow)

def text (content : Content) : Reading String := do
  match ← follow content with
  | .scalar text _ _ => return text
  | _ => failure

def items (content : Content) : Reading (List Content) := do
  match ← follow content with
  | .sequence items _ => return items
  | .scalar "" true _ => return []
  | _ => failure

def texts (content : Content) : Reading (List String) := do
  (← items content).mapM text

def fields (content : Content) : Reading (List (String × Content)) := do
  match ← follow content with
  | .mapping entries _ => entries.mapM fun (key, value) => return (← text key, value)
  | .scalar "" true _ => return []
  | _ => failure

def field? {α : Type} (fields : List (String × α)) (name : String) : Option (Option α) :=
  match fields.filter (·.1 == name) with
  | [] => some none
  | [(_, value)] => some (some value)
  | _ => none

def required? {α : Type} (fields : List (String × α)) (name : String) : Option α :=
  (field? fields name).bind id

def defaulted {m : Type → Type} [Monad m] [MonadLiftT Option m] {α β : Type} (fields : List (String × α))
    (name : String) (read : α → m β) (default : β) : m β := do
  match ← (liftM (field? fields name) : m (Option α)) with
  | none => return default
  | some value => read value

def constraint (content : Content) : Reading Constraint := do
  let content ← follow content
  if (Yaml.Data.ownName? content.tagOf).isSome then failure
  match ← fields content with
  | [("require_one_of", names)] => return .requireOneOf (← texts names)
  | [("require_at_most_one_of", names)] => return .atMostOneOf (← texts names)
  | [("deprecated", body)] => do
      let fields ← fields body
      let names ← texts (← required? fields "properties")
      return .deprecated names (← text (← required? fields "message"))
  | _ => failure

def constraints (content : Content) : Reading (List Constraint) := do
  (← items content).mapM constraint

/-- The levels of collections that are left inside a field of a type: the dialect, its types and the type
itself are open already. -/
def kindDepth : Nat :=
  Yaml.Data.maxDepth - 3

/-- A value inside the description of a kind: no tags of the document, keys as often as they are given. -/
def resolved (content : Content) : Reading Value :=
  Yaml.Data.Reading.value ⟨false, true⟩ kindDepth content

def string? : Value → Option String
  | .string text => some text
  | _ => none

def strings? : Value → Option (List String)
  | .sequence items => items.mapM string?
  | _ => none

def bool? : Value → Option Bool
  | .bool value => some value
  | _ => none

def optional? {α : Type} (read : Value → Option α) : Value → Option (Option α)
  | .null => some none
  | value => (read value).map some

def int? : Value → Option Int
  | .int value => if Width.isSigned 64 value then some value else none
  | _ => none

/-- A name out of a list, given as it is or by its position; other positions are skipped. -/
def nameIn? (names : List String) : Value → Option String
  | .string name => some name
  | .int (.ofNat position) => some (names.getD position "")
  | _ => none

def record? (names : List String) : Value → Option (List (String × Value))
  | .mapping entries => entries.mapM fun (key, value) => (nameIn? names key).map (·, value)
  | .sequence items => if items.length = names.length then some (names.zip items) else none
  | _ => none

def deprecation? : Value → Option DeprecationDecl
  | .bool value => some (.flag value)
  | .string text => some (.message text)
  | _ => none

def property? (value : Value) : Option PropertyDecl := do
  let fields ← record? ["name", "type", "required", "description", "aliases", "deprecated"] value
  return {
    name := ← string? (← required? fields "name")
    type := ← string? (← required? fields "type")
    required := ← defaulted fields "required" bool? false
    description := ← defaulted fields "description" (optional? string?) none
    aliases := ← defaulted fields "aliases" strings? []
    deprecated := ← defaulted fields "deprecated" (optional? deprecation?) none }

def properties? : Value → Option (List PropertyDecl)
  | .sequence items => items.mapM property?
  | _ => none

def valueDeprecation? (value : Value) : Option ValueDeprecationDecl := do
  let fields ← record? ["message", "replacement"] value
  return {
    message := ← defaulted fields "message" (optional? string?) none
    replacement := ← defaulted fields "replacement" (optional? string?) none }

def placeDeprecation (entries : List (String × ValueDeprecationDecl)) (value : String)
    (declaration : ValueDeprecationDecl) : List (String × ValueDeprecationDecl) :=
  match entries with
  | [] => [(value, declaration)]
  | entry :: rest =>
      if entry.1 = value then (value, declaration) :: rest
      else if value < entry.1 then (value, declaration) :: entry :: rest
      else entry :: placeDeprecation rest value declaration

def valueDeprecations? : Value → Option (List (String × ValueDeprecationDecl))
  | .mapping entries => do
      let entries ← entries.mapM fun (key, value) => do return (← string? key, ← valueDeprecation? value)
      return entries.foldl (fun placed (value, declaration) => placeDeprecation placed value declaration) []
  | _ => none

def kindNames : List String :=
  ["atomic", "any", "bean", "map", "sequence", "union", "enum", "integer", "indexed"]

def kind? (fields : List (String × Value)) : Option KindDecl := do
  match ← nameIn? kindNames (← required? fields "kind") with
  | "atomic" => return .atomic
  | "any" => return .any
  | "bean" => return .bean (← defaulted fields "properties" properties? [])
  | "map" => return .map (← string? (← required? fields "key")) (← string? (← required? fields "value"))
  | "sequence" => return .sequence (← string? (← required? fields "element"))
  | "union" => return .union (← strings? (← required? fields "members"))
  | "enum" =>
      return .enumeration (← strings? (← required? fields "values"))
        (← defaulted fields "deprecated" valueDeprecations? [])
  | "integer" =>
      return .integer (← defaulted fields "min" (optional? int?) none)
        (← defaulted fields "max" (optional? int?) none)
  | "indexed" => return .indexed
  | _ => none

def isTypeField (name : String) : Bool :=
  name == "name" || name == "hints" || name == "constraints"

def type (content : Content) : Reading TypeDecl := do
  let fields ← fields content
  let kindFields ← (fields.filter fun field => !isTypeField field.1).mapM fun (name, value) =>
    return (name, ← resolved value)
  return {
    name := ← text (← required? fields "name")
    kind := ← kind? kindFields
    hints := ← defaulted fields "hints" texts []
    constraints := ← defaulted fields "constraints" constraints [] }

def types (content : Content) : Reading (List TypeDecl) := do
  (← items content).mapM type

def dialect (content : Content) : Reading DialectDecl := do
  let fields ← fields content
  return {
    name := ← text (← required? fields "name")
    root := ← text (← required? fields "root")
    files := ← defaulted fields "files" texts []
    types := ← defaulted fields "types" types []
    constraints := ← defaulted fields "constraints" constraints [] }

end Declaration

def DialectDecl.ofText? (text : String) : Option DialectDecl := do
  let document ← Yaml.Data.Document.ofText? text
  Yaml.Data.Reading.run? document Declaration.dialect

def Dialect.ofText (text : String) : Except SchemaError Dialect :=
  match DialectDecl.ofText? text with
  | some declaration => declaration.dialect
  | none => .error .malformed

end YamlDialects

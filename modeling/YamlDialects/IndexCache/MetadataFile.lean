import YamlDialects.IndexCache.Schedule
import YamlDialects.Json.Reader
import YamlDialects.Schema.Index
import YamlDialects.Settings

/-!
Property metadata: a JSON text that lists properties, and the index that is built from a file of it. A record
is an object, or an array with its fields in order; a field of an object that is not known is skipped, and
none may be given twice.
-/

set_option autoImplicit false

namespace YamlDialects.Metadata

def record? (names : List String) (least : Nat) : Json → Option (List (String × Json))
  | .object members =>
      if names.any fun name => (members.filter (·.1 == name)).length > 1 then none else some members
  | .array items =>
      if least ≤ items.length ∧ items.length ≤ names.length then some (names.zip items) else none
  | _ => none

def field? (fields : List (String × Json)) (name : String) : Option Json :=
  (fields.find? (·.1 == name)).map (·.2)

def optional? (fields : List (String × Json)) (name : String) : Option (Option String) :=
  match field? fields name with
  | none | some .null => some none
  | some value => value.string?.map some

def deprecation? (name : String) (value : Json) : Option String := do
  let fields ← record? ["reason", "replacement"] 2 value
  match ← optional? fields "reason", ← optional? fields "replacement" with
  | some reason, _ => return reason
  | none, some replacement => return "Use '" ++ replacement ++ "' instead"
  | none, none => return "'" ++ name ++ "' is deprecated"

def property? (value : Json) : Option (String × PropertyInfo) := do
  let fields ← record? ["name", "type", "description", "deprecation"] 4 value
  let name ← (← field? fields "name").string?
  let type ← ((field? fields "type").getD (.string "")).string?
  let description ← optional? fields "description"
  let deprecation ← match field? fields "deprecation" with
    | none | some .null => some none
    | some value => (deprecation? name value).map some
  return (name, ⟨type, description, deprecation⟩)

def properties? (value : Json) : Option (List (String × PropertyInfo)) := do
  let fields ← record? ["properties"] 0 value
  (← ((field? fields "properties").getD (.array [])).array?).mapM property?

def index? (text : String) : Option PropertyIndex :=
  ((Json.readLoose? text).bind properties?).map PropertyIndex.ofList

end YamlDialects.Metadata

namespace YamlDialects.MetadataFile

/-- The index of a metadata file. A file that cannot be read is a failure even if the build is
cancelled. -/
def build (files : Files) (file : String) (cancelled : Bool) : BuildResult :=
  match files file with
  | none => .error (.failed (file ++ ": cannot be read"))
  | some text =>
      if cancelled then .error .cancelled
      else
        match Metadata.index? text with
        | some index => .ok index
        | none => .error (.failed (file ++ ": malformed"))

def builder (files : Files) : IndexBuild.Builder Unit := fun file memory =>
  ({ result := build files file false }, memory)

end YamlDialects.MetadataFile

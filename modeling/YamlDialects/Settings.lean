import YamlDialects.Json.Basic
import YamlDialects.Problem
import YamlDialects.Schema.Basic

set_option autoImplicit false

namespace YamlDialects

abbrev Files := String → Option String

structure Settings where
  severities : Severities := []
  tieredProposals : Bool := true
  suggestDeprecatedProperties : Bool := false
  relaxedNames : Bool := false
  deindentedProposals : Bool := true
  indexIdleSeconds : Nat := 300
  dialectFiles : List String := []
  propertyMetadata : Option String := none
deriving DecidableEq, Inhabited

namespace Settings

def severity? : Json → Option Severity
  | .string name => Severity.ofName? name
  | .object [(name, .null)] => Severity.ofName? name
  | _ => none

def severities? : Json → Option Severities
  | .object members =>
      (members.mapM fun (code, value) => do return (← ProblemKind.ofCode? code, ← severity? value)).map
        List.reverse
  | _ => none

def fieldNames : List String :=
  ["severities", "tieredProposals", "suggestDeprecatedProperties", "relaxedNames", "deindentedProposals",
    "indexIdleTtlSecs", "dialectFiles", "propertyMetadata"]

def metadata? : Json → Option (Option String)
  | .null => some none
  | value => value.string?.map some

def set (settings : Settings) (field : String) (value : Json) : Option Settings :=
  match field with
  | "severities" => (severities? value).map ({ settings with severities := · })
  | "tieredProposals" => value.bool?.map ({ settings with tieredProposals := · })
  | "suggestDeprecatedProperties" => value.bool?.map ({ settings with suggestDeprecatedProperties := · })
  | "relaxedNames" => value.bool?.map ({ settings with relaxedNames := · })
  | "deindentedProposals" => value.bool?.map ({ settings with deindentedProposals := · })
  | "indexIdleTtlSecs" => (value.nat? 64).map ({ settings with indexIdleSeconds := · })
  | "dialectFiles" => value.strings?.map ({ settings with dialectFiles := · })
  | "propertyMetadata" => (metadata? value).map ({ settings with propertyMetadata := · })
  | _ => some settings

def setAll (fields : List (String × Json)) : Option Settings :=
  fields.foldlM (fun settings (field, value) => settings.set field value) {}

def read? : Json → Option Settings
  | .object members => setAll members
  | .array items => if items.length ≤ fieldNames.length then setAll (fieldNames.zip items) else none
  | _ => none

def ofJson (value : Option Json) : Settings :=
  (value.bind read?).getD {}

def toJson (settings : Settings) : Json :=
  .object [
    ("severities", .object
      (settings.severities.map fun (kind, severity) => (kind.code, .string severity.name)).reverse),
    ("tieredProposals", .bool settings.tieredProposals),
    ("suggestDeprecatedProperties", .bool settings.suggestDeprecatedProperties),
    ("relaxedNames", .bool settings.relaxedNames),
    ("deindentedProposals", .bool settings.deindentedProposals),
    ("indexIdleTtlSecs", .nat settings.indexIdleSeconds),
    ("dialectFiles", .strings settings.dialectFiles),
    ("propertyMetadata", .ofOption .string settings.propertyMetadata)]

def schemaOptions (settings : Settings) : SchemaOptions :=
  ⟨settings.tieredProposals, settings.suggestDeprecatedProperties, settings.relaxedNames⟩

end Settings
end YamlDialects

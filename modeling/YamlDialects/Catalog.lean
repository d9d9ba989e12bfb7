import YamlDialects.Assist.Completion
import YamlDialects.Assist.Hover
import YamlDialects.Schema.Declaration.Reader
import YamlDialects.Schema.Workflows
import YamlDialects.Settings
import YamlDialects.Validation.Document

/-!
A dialect under given settings, which answers requests on plain texts; the dialects that are known, and which of them a
document is written in.
-/

set_option autoImplicit false

namespace YamlDialects

structure Assistant where
  dialect : Dialect
  settings : Settings

namespace Assistant

def schema (assistant : Assistant) (index : Option PropertyIndex) : Schema :=
  assistant.dialect.schema assistant.settings.schemaOptions index

def complete (assistant : Assistant) (index : Option PropertyIndex) (text : String) (offset : Nat) :
    List Proposal :=
  Completion.find (assistant.schema index) assistant.dialect.root assistant.settings.deindentedProposals
    text offset

def hover? (assistant : Assistant) (index : Option PropertyIndex) (text : String) (offset : Nat)
    (read : Yaml.TextReader := Yaml.readText) : Option Hover :=
  Hover.find? (assistant.schema index) assistant.dialect.root text offset read

def problems (assistant : Assistant) (index : Option PropertyIndex) (text : String)
    (read : Yaml.TextReader := Yaml.readText) : List Problem :=
  Problem.report assistant.settings.severities
    (assistant.dialect.problems assistant.settings.schemaOptions index text read)

end Assistant

structure Catalog where
  settings : Settings := {}
  dialects : List Dialect := []

namespace Catalog

def register (catalog : Catalog) (dialect : Dialect) : Catalog :=
  { catalog with dialects := catalog.dialects ++ [dialect] }

def readDialect (files : Files) (name : String) : Except SchemaError Dialect :=
  match files name with
  | some text => Dialect.ofText text
  | none => .error .unreadable

def sources (files : Files) (settings : Settings) : List (Except SchemaError Dialect) :=
  Workflows.dialect :: settings.dialectFiles.map (readDialect files)

def loadAll (files : Files) (settings : Settings) : Except SchemaError Catalog := do
  return { settings, dialects := ← (sources files settings).mapM id }

def load (files : Files) (settings : Settings) : Catalog :=
  { settings, dialects := (sources files settings).filterMap Except.toOption }

def assistant? (catalog : Catalog) (address : String) : Option Assistant :=
  (catalog.dialects.find? (·.covers address)).map (⟨·, catalog.settings⟩)

def names (catalog : Catalog) : List String :=
  catalog.dialects.map (·.name)

def label (catalog : Catalog) (indexed : Bool) : String :=
  "SchemaRegistry \x7b dialects: " ++ Text.bracketed (catalog.names.map Text.quoted) ++
    ", index_available: " ++ (if indexed then "true" else "false") ++ " \x7d"

end Catalog
end YamlDialects

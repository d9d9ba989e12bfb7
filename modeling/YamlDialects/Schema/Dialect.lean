import YamlDialects.Pattern.Meaning
import YamlDialects.Schema.Basic
import YamlDialects.Text.Printable

set_option autoImplicit false

namespace YamlDialects

structure FilePattern where
  source : String
  pattern : Pattern
deriving Inhabited

def FilePattern.ofText (source : String) (compile : String → Option Pattern := Pattern.ofText?) :
    Except SchemaError FilePattern :=
  match compile source with
  | some pattern => .ok ⟨source, pattern⟩
  | none => .error (.badPattern source)

structure Dialect where
  name : String
  graph : TypeGraph
  root : TypeId
  files : List FilePattern := []
  constraints : List Constraint := []
deriving Inhabited

namespace Dialect

def covers (dialect : Dialect) (address : String) : Bool :=
  dialect.files.any fun file => file.pattern.occursIn address

def schema (dialect : Dialect) (options : SchemaOptions) (index : Option PropertyIndex) : Schema :=
  ⟨dialect.graph, options, index⟩

def typeLabel (name : String) : String :=
  "YType(" ++ name ++ ")"

def label (dialect : Dialect) : String :=
  "Dialect \x7b name: " ++ Text.quoted dialect.name ++ ", root: "
    ++ typeLabel (dialect.graph.name dialect.root) ++ ", file_patterns: "
    ++ Text.bracketed (dialect.files.map fun file => Text.quoted file.source) ++ " \x7d"

end Dialect
end YamlDialects

import YamlDialects.Markdown
import YamlDialects.Schema.Context
import YamlDialects.Schema.Index

/-!
Suggestions for the values of a type. A provider that a caller brings in code is left out.
-/

set_option autoImplicit false

namespace YamlDialects

structure Hint where
  value : String
  label : String := value
  documentation : Option Markdown := none
  continuation : Option String := none
deriving Inhabited

inductive HintSource where
  | fixed (hints : List Hint)
  | definedKeys
  | index

namespace Hint

def of (value : String) : Hint :=
  { value }

def ofIndexEntry? (entry : String × PropertyInfo) : Option Hint :=
  if entry.2.deprecation.isSome then none
  else some { value := entry.1, documentation := entry.2.description.map .text }

def addNew (hints more : List Hint) : List Hint :=
  more.foldl (fun all hint => if all.any (·.value == hint.value) then all else all ++ [hint]) hints

end Hint

def HintSource.hints (source : HintSource) (index : Option PropertyIndex) (context : SchemaContext) :
    List Hint :=
  match source with
  | .fixed hints => hints
  | .definedKeys => context.definedKeys.map Hint.of
  | .index => (index.getD {}).entries.filterMap Hint.ofIndexEntry?

end YamlDialects

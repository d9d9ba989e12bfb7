import YamlDialects.Outline.Block
import YamlDialects.Yaml.Node

set_option autoImplicit false

namespace YamlDialects

inductive ContextSource where
  | nowhere
  | node (node : Yaml.Node)
  | block (block : Block)
deriving Inhabited

structure SchemaContext where
  path : Path := []
  source : ContextSource := .nowhere
  extra : List String := []
deriving Inhabited

namespace ContextSource

def keys : ContextSource → List String
  | .nowhere => []
  | .node found => found.keyNames
  | .block found => found.childKeys

def value? (source : ContextSource) (key : String) : Option String :=
  match source with
  | .nowhere => none
  | .node found => (found.value? key).bind Yaml.Node.scalar?
  | .block found => (found.childrenWithKey key).head?.bind Block.simpleValue?

def isSequence : ContextSource → Bool
  | .nowhere => false
  | .node found => found.isSequence
  | .block found => found.children.any (·.kind == .item)

def hasKeys : ContextSource → Bool
  | .nowhere => false
  | .node found => !found.entries.isEmpty
  | .block found => found.children.any (·.kind == .key)

end ContextSource

namespace SchemaContext

def dropRepeats : List String → List String
  | first :: second :: rest =>
      if first = second then dropRepeats (second :: rest) else first :: dropRepeats (second :: rest)
  | rest => rest

def sortedNames (names : List String) : List String :=
  dropRepeats (names.mergeSort fun first second => decide (first ≤ second))

def definedKeys (context : SchemaContext) : List String :=
  sortedNames (context.source.keys ++ context.extra)

def isDefined (context : SchemaContext) (name : String) : Bool :=
  context.definedKeys.contains name

def value? (context : SchemaContext) (key : String) : Option String :=
  context.source.value? key

def withExtra (context : SchemaContext) (keys : List String) : SchemaContext :=
  { context with extra := context.extra ++ keys }

end SchemaContext
end YamlDialects

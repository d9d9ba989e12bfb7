import YamlDialects.Assist.Context

/-!
Documentation for the place under the cursor. It is found with the syntax tree; inside damaged blocks
the outline stands in for it.
-/

set_option autoImplicit false

namespace YamlDialects

structure Hover where
  markdown : String
  region : Region
deriving DecidableEq, Inhabited

namespace Hover

def distinct (documents : List Markdown) : List Markdown :=
  documents.foldl (fun seen doc => if seen.contains doc then seen else seen ++ [doc]) []

def of? (documents : List Markdown) (region : Region) : Option Hover :=
  if documents.isEmpty then none else some ⟨(Markdown.join (distinct documents)).render, region⟩

def ofValue? (node : Yaml.Node) (context : AssistContext) : Option Markdown :=
  let hint : Option Markdown := do
    let type ← context.type?
    let value ← node.scalar?
    let hint ← (context.schema.hints type context.surroundings).find? (·.value == value)
    hint.documentation
  hint.or context.documentation?

def inOutline? (schema : Schema) (root : TypeId) (outline : Outline) (offset : Nat) : Option Hover := do
  let block ← outline.find? offset
  if block.kind != .key && block.kind != .item then none
  let top := AssistContext.top schema (.outline outline) root
  if block.isInKey offset then
    let key ← block.key?
    let parent := (block.parent?.map Block.path).getD []
    of? ((parent.results top).filterMap fun context => context.keyDocumentation? key) (← block.keyRegion?)
  else of? ((block.path.results top).filterMap AssistContext.documentation?) block.region

def inTree? (schema : Schema) (root : TypeId) (tree : Yaml.Tree) (offset : Nat) : Option Hover := do
  let (path, node) ← tree.pathAt? offset
  let top := AssistContext.top schema (.tree tree) root
  let documents := match path.getLast? with
    | some (.key key) =>
        ((Path.results path.dropLast top).filterMap fun context => context.keyDocumentation? key)
    | _ => (path.results top).filterMap (ofValue? node)
  of? documents node.region

def find? (schema : Schema) (root : TypeId) (text : String) (offset : Nat)
    (read : Yaml.TextReader := Yaml.readText) : Option Hover :=
  let tree := Yaml.Tree.parseBy read text schema.options.relaxedNames
  if tree.isDamaged offset then inOutline? schema root tree.outline offset
  else inTree? schema root tree offset

end Hover
end YamlDialects

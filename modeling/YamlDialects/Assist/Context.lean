import YamlDialects.Schema.Basic
import YamlDialects.Yaml.Tree

set_option autoImplicit false

namespace YamlDialects

inductive AssistSource where
  | outline (outline : Outline)
  | tree (tree : Yaml.Tree)

namespace AssistSource

def find? (source : AssistSource) (path : Path) : Option ContextSource :=
  match source with
  | .outline found => (path.first? found.root).map .block
  | .tree found => ((path.first? (Yaml.Place.file found)).bind Yaml.Place.node?).map .node

def context (source : AssistSource) (path : Path) : SchemaContext :=
  { path, source := (source.find? path).getD .nowhere }

end AssistSource

inductive Expectation where
  | documents (root : TypeId)
  | value (type : TypeId)
deriving DecidableEq, Inhabited

structure AssistContext where
  schema : Schema
  source : AssistSource
  expected : Expectation
  path : Path := []
  property : Option (TypeId × Property) := none

namespace Property

def documentation (schema : Schema) (owner : TypeId) (property : Property) : Markdown :=
  let title := Markdown.paragraph (.join
    [.bold (.code property.name), .text " : ", .code (schema.niceName property.type)])
  let place := Markdown.paragraph (.join [.text "Property of ", .italic (.text (schema.niceName owner))])
  let description := if property.description.isEmpty then [] else [Markdown.paragraph property.description]
  let reason := match property.deprecation with
    | some message => "Deprecated: " ++ message
    | none => "Deprecated"
  let deprecation := if property.deprecated then [Markdown.paragraph (.italic (.text reason))] else []
  .join ([title, place] ++ description ++ deprecation)

end Property

namespace AssistContext

def top (schema : Schema) (source : AssistSource) (root : TypeId) : AssistContext :=
  { schema, source, expected := .documents root }

def type? (context : AssistContext) : Option TypeId :=
  match context.expected with
  | .documents _ => none
  | .value type => some type

def surroundings (context : AssistContext) : SchemaContext :=
  context.source.context context.path

def documentation? (context : AssistContext) : Option Markdown :=
  context.property.map fun (owner, property) => property.documentation context.schema owner

def keyDocumentation? (context : AssistContext) (key : String) : Option Markdown := do
  let type ← context.type?
  let property ← context.schema.property? type key
  return property.documentation context.schema type

def child (context : AssistContext) (segment : Segment) (type : TypeId)
    (property : Option (TypeId × Property) := none) : AssistContext :=
  let path := context.path ++ [segment]
  { context with
    expected := .value (context.schema.infer type (context.source.context path))
    path
    property }

def inner? (schema : Schema) (type : TypeId) : Option TypeId :=
  if schema.isAny type then some type else schema.domain? type

def owners (schema : Schema) (type : TypeId) : List TypeId :=
  if schema.isUnion type then schema.members type else [type]

def stepInto (context : AssistContext) (type : TypeId) (segment : Segment) : List AssistContext :=
  let schema := context.schema
  let inside := ((inner? schema type).map fun inner => context.child segment inner).toList
  match segment with
  | .value key =>
      if schema.isMap type || (schema.isSequence type && !schema.isBean type) then inside
      else (owners schema type).filterMap fun owner =>
        (schema.property? owner key).map fun property =>
          context.child segment property.type (some (owner, property))
  | .index _ => if schema.isSequence type then inside else []
  | .anyChild =>
      if (inner? schema type).isSome then inside
      else (schema.properties type).map fun property =>
        context.child (.value property.name) property.type (some (type, property))
  | .key _ => []

def step (segment : Segment) (context : AssistContext) : List AssistContext :=
  match context.expected, segment with
  | .documents root, .index _ => [context.child segment root]
  | .documents _, _ => []
  | .value type, _ => context.stepInto type segment

instance : Navigable AssistContext where
  step := step

def label (context : AssistContext) : String :=
  match context.expected with
  | .documents _ => "TopLevelContext"
  | .value type =>
      "TypeContext(" ++ context.path.propertyText ++ "::" ++ context.schema.ownName type ++ ")"

end AssistContext
end YamlDialects

import YamlDialects.Markdown
import YamlDialects.Names
import YamlDialects.Schema.Constraint
import YamlDialects.Schema.Error
import YamlDialects.Schema.Hint
import YamlDialects.Schema.ValueRule

/-!
Type graphs. A graph only grows: a type that has been added keeps its place, and a reference that has
been bound keeps its target. References let types refer to each other in circles. The guesses of
contextual types are those of declarations and of the built-in dialects.
-/

set_option autoImplicit false

namespace YamlDialects

/-- Place of a type in its graph. Two references to one place are the same type. -/
abbrev TypeId := Nat

structure Property where
  name : String
  type : TypeId
  description : Markdown := .empty
  aliases : List String := []
  required : Bool := false
  primary : Bool := false
  deprecated : Bool := false
  deprecation : Option String := none
deriving Inhabited

namespace Property

def isNamed (property : Property) (key : String) : Bool :=
  property.name == key || property.aliases.contains key

def addSpelling (spellings : List String) (other : String) : List String :=
  if spellings.any fun known => Names.canonical known == Names.canonical other then spellings
  else spellings ++ [other]

/-- The variants of the name, then the aliases that are no variant of an earlier spelling. -/
def spellings (property : Property) : List String :=
  property.aliases.foldl addSpelling (Names.variants property.name)

end Property
inductive Shape where
  | anything
  | atomic
  | bean
deriving DecidableEq, Inhabited

inductive Guess where
  | byValue (key : String) (cases : List (String × TypeId)) (otherwise : Option TypeId)
  | byScalar (scalar structured : TypeId)
  | bySequence (sequence other : TypeId)
deriving Inhabited

inductive TypeKind where
  | atomic
  | any
  | map (key value : TypeId)
  | bean (properties : List Property)
  | sequence (element : TypeId)
  | union (members : List TypeId) (primaries : List Property)
  | contextual (guess : Guess) (shape : Shape)
  /-- A reference holds the place of its target, which may be bound later. -/
  | reference (cell : Nat)
deriving Inhabited

structure TypeDef where
  name : String
  kind : TypeKind
  hints : List Hint := []
  hintSource : Option HintSource := none
  rule : Option ValueRule := none
  constraints : List Constraint := []
deriving Inhabited

def TypeDef.withProperties (definition : TypeDef) (added : List Property) : TypeDef :=
  match definition.kind with
  | .bean properties => { definition with kind := .bean (properties ++ added) }
  | _ => definition

structure TypeGraph where
  types : Array TypeDef := #[]
  targets : Array (Option TypeId) := #[]
deriving Inhabited

namespace Guess

/-- A block shows its keys but not whether it is a scalar, so that without keys nothing is decided. -/
def choose (context : SchemaContext) : Guess → Option TypeId
  | .byValue key cases otherwise =>
      match (context.value? key).bind fun value => cases.find? (·.1 == value) with
      | some (_, type) => some type
      | none => otherwise
  | .byScalar scalar structured =>
      match context.source with
      | .nowhere => none
      | .node node => some (if node.isScalar then scalar else structured)
      | .block _ => if context.source.hasKeys then some structured else none
  | .bySequence sequence other => some (if context.source.isSequence then sequence else other)

end Guess

namespace TypeGraph

def get (graph : TypeGraph) (type : TypeId) : TypeDef :=
  graph.types.getD type default

def name (graph : TypeGraph) (type : TypeId) : String :=
  (graph.get type).name

def beanProperties? (graph : TypeGraph) (type : TypeId) : Option (List Property) :=
  match (graph.get type).kind with
  | .bean properties => some properties
  | _ => none

def bind (graph : TypeGraph) (type target : TypeId) : Except SchemaError TypeGraph :=
  match (graph.get type).kind with
  | .reference cell =>
      match graph.targets.getD cell none with
      | none => .ok { graph with targets := graph.targets.setIfInBounds cell (some target) }
      | some _ => .error (.invalidType (graph.name type) .definedTwice)
  | _ => .error (.invalidType (graph.name type) .notReference)

def isShared (graph : TypeGraph) (members : List TypeId) (member : TypeId) (name : String) : Bool :=
  members.any fun other => other != member &&
    ((graph.beanProperties? other).getD []).any (·.name == name)

def primary (graph : TypeGraph) (unionName : String) (members : List TypeId) (member : TypeId) :
    Except SchemaError Property :=
  match graph.beanProperties? member with
  | none => .error (.invalidType unionName (.memberNotBean (graph.name member)))
  | some properties =>
      match properties.find? fun property => !graph.isShared members member property.name with
      | some property => .ok { property with primary := true }
      | none => .error (.invalidType unionName (.memberNotUnique (graph.name member)))

def unionKind (graph : TypeGraph) (unionName : String) (members : List TypeId) : Except SchemaError TypeKind :=
  if members.length < 2 then .error (.invalidType unionName .tooFewMembers)
  else (members.mapM (graph.primary unionName members)).map (.union members)

end TypeGraph

abbrev GraphBuilder := StateT TypeGraph (Except SchemaError)

namespace GraphBuilder

def add (definition : TypeDef) : GraphBuilder TypeId := do
  let graph ← get
  set { graph with types := graph.types.push definition }
  return graph.types.size

def atomic (name : String) (hints : List Hint := []) : GraphBuilder TypeId :=
  add { name, kind := .atomic, hints }

def any (name : String) : GraphBuilder TypeId :=
  add { name, kind := .any }

def bean (name : String) (properties : List Property) (constraints : List Constraint := []) :
    GraphBuilder TypeId :=
  add { name, kind := .bean properties, constraints }

def mapDef (key value : TypeId) : GraphBuilder TypeDef := do
  let graph ← get
  return { name := "Map<" ++ graph.name key ++ ", " ++ graph.name value ++ ">", kind := .map key value }

def map (key value : TypeId) (constraints : List Constraint := []) : GraphBuilder TypeId := do
  add { ← mapDef key value with constraints }

def sequenceDef (element : TypeId) : GraphBuilder TypeDef := do
  return { name := "List<" ++ (← get).name element ++ ">", kind := .sequence element }

def sequence (element : TypeId) : GraphBuilder TypeId := do
  add (← sequenceDef element)

def contextual (name : String) (guess : Guess) (shape : Shape := .anything) : GraphBuilder TypeId :=
  add { name, kind := .contextual guess shape }

def referenceDef (name : String) : GraphBuilder TypeDef := do
  let graph ← get
  set { graph with targets := graph.targets.push none }
  return { name, kind := .reference graph.targets.size }

def reference (name : String) : GraphBuilder TypeId := do
  add (← referenceDef name)

def bind (type target : TypeId) : GraphBuilder Unit := do
  set (← (← get).bind type target)

def unionDef (name : String) (members : List TypeId) : GraphBuilder TypeDef := do
  return { name, kind := ← (← get).unionKind name members }

def integerDef (name : String) (least most : Option Int) : TypeDef :=
  { name, kind := .atomic, rule := some (.integer least most) }

def enumerationDef (name : String) (values : List String) (deprecations : List ValueDeprecation) : TypeDef :=
  let current := values.filter fun value => !deprecations.any (·.value == value)
  { name, kind := .atomic, hints := current.map Hint.of, rule := some (.oneOf name values deprecations) }

def booleanDef : TypeDef :=
  enumerationDef "boolean" ["true", "false"] []

def indexedDef (name : String) : TypeDef :=
  { name, kind := .atomic, hintSource := some .index, rule := some .indexed }

end GraphBuilder
end YamlDialects

import YamlDialects.Schema.Graph

/-!
Options that change what a schema accepts and proposes, and what the types of a graph mean under them: the questions
that validation and assistance ask.
-/

set_option autoImplicit false

namespace YamlDialects

structure SchemaOptions where
  tieredProposals : Bool := true
  suggestDeprecated : Bool := false
  relaxedNames : Bool := false
deriving DecidableEq, Inhabited

structure Schema where
  graph : TypeGraph
  options : SchemaOptions := {}
  index : Option PropertyIndex := none

namespace Schema

/-- Bound on the references and choices that are followed one after the other. -/
def maxSteps : Nat :=
  32

def target? (schema : Schema) (type : TypeId) : Option TypeId :=
  match (schema.graph.get type).kind with
  | .reference cell => schema.graph.targets.getD cell none
  | _ => none

def resolveWithin (schema : Schema) : Nat → TypeId → TypeId
  | 0, type => type
  | steps + 1, type =>
      match schema.target? type with
      | some target => resolveWithin schema steps target
      | none => type

/-- Follows references; an unbound one stands for itself. -/
def resolve (schema : Schema) (type : TypeId) : TypeId :=
  schema.resolveWithin maxSteps type

def definition (schema : Schema) (type : TypeId) : TypeDef :=
  schema.graph.get (schema.resolve type)

def kind (schema : Schema) (type : TypeId) : TypeKind :=
  (schema.definition type).kind

def isAtomic (schema : Schema) (type : TypeId) : Bool :=
  match schema.kind type with
  | .atomic | .any => true
  | .contextual _ shape => shape == .anything || shape == .atomic
  | _ => false

def isMap (schema : Schema) (type : TypeId) : Bool :=
  match schema.kind type with
  | .map _ _ | .any => true
  | .contextual _ shape => shape == .anything
  | _ => false

def isBean (schema : Schema) (type : TypeId) : Bool :=
  match schema.kind type with
  | .bean _ | .union _ _ => true
  | .contextual _ shape => shape == .anything || shape == .bean
  | _ => false

def isSequence (schema : Schema) (type : TypeId) : Bool :=
  match schema.kind type with
  | .sequence _ | .any => true
  | .contextual _ shape => shape == .anything
  | _ => false

def isAny (schema : Schema) (type : TypeId) : Bool :=
  match schema.kind type with
  | .any => true
  | _ => false

def isUnion (schema : Schema) (type : TypeId) : Bool :=
  match schema.kind type with
  | .union _ _ => true
  | _ => false

/-- The properties of a bean; an undecided union offers the primary ones of its members. -/
def properties (schema : Schema) (type : TypeId) : List Property :=
  match schema.kind type with
  | .bean properties => properties
  | .union _ primaries => primaries
  | _ => []

def relaxedProperty? (schema : Schema) (properties : List Property) (key : String) : Option Property :=
  if schema.options.relaxedNames then
    properties.find? fun property => Names.canonical property.name == Names.canonical key
  else none

/-- The property that a key names: by its name, else by an alias, else by a relaxed name. -/
def property? (schema : Schema) (type : TypeId) (key : String) : Option Property :=
  let properties := schema.properties type
  (properties.find? (·.name == key)).or
    ((properties.find? (·.isNamed key)).or (schema.relaxedProperty? properties key))

def members (schema : Schema) (type : TypeId) : List TypeId :=
  match schema.kind type with
  | .union members _ => members
  | _ => []

def propertyTypes (schema : Schema) (type : TypeId) (key : String) : List TypeId :=
  match schema.kind type with
  | .union members _ => members.filterMap fun member => (schema.property? member key).map (·.type)
  | _ => ((schema.property? type key).map (·.type)).toList

def domain? (schema : Schema) (type : TypeId) : Option TypeId :=
  match schema.kind type with
  | .sequence element => some element
  | .map _ value => some value
  | _ => none

def element? (schema : Schema) (type : TypeId) : Option TypeId :=
  match schema.kind type with
  | .sequence element => some element
  | _ => none

def keyType? (schema : Schema) (type : TypeId) : Option TypeId :=
  match schema.kind type with
  | .map key _ => some key
  | _ => none

def rule? (schema : Schema) (type : TypeId) : Option ValueRule :=
  (schema.definition type).rule

def fault? (schema : Schema) (type : TypeId) (value : String) : Option ValueFault :=
  (schema.rule? type).bind fun rule => rule.check schema.index value

def hints (schema : Schema) (type : TypeId) (context : SchemaContext) : List Hint :=
  let definition := schema.definition type
  match definition.hintSource with
  | none => definition.hints
  | some source => Hint.addNew definition.hints (source.hints schema.index context)

def constraints (schema : Schema) (type : TypeId) : List Constraint :=
  (schema.definition type).constraints

def isChosen (schema : Schema) (context : SchemaContext) (primary : Property) : Bool :=
  context.definedKeys.any fun key => primary.name == key ||
    (schema.options.relaxedNames && Names.canonical primary.name == Names.canonical key)

def choice? (schema : Schema) (context : SchemaContext) (type : TypeId) : Option TypeId :=
  match (schema.graph.get type).kind with
  | .union members primaries =>
      ((members.zip primaries).find? fun (_, primary) => schema.isChosen context primary).map (·.1)
  | .contextual guess _ => guess.choose context
  | _ => none

def inferWithin (schema : Schema) (context : SchemaContext) : Nat → TypeId → TypeId
  | 0, type => type
  | steps + 1, type =>
      match (schema.choice? context type).map schema.resolve with
      | some better => if better = type then type else inferWithin schema context steps better
      | none => type

def infer (schema : Schema) (type : TypeId) (context : SchemaContext) : TypeId :=
  schema.inferWithin context maxSteps (schema.resolve type)

def ownName (schema : Schema) (type : TypeId) : String :=
  schema.graph.name type

def niceName (schema : Schema) (type : TypeId) : String :=
  (schema.definition type).name

end Schema
end YamlDialects

import YamlDialects.Schema.Dialect

set_option autoImplicit false

namespace YamlDialects

inductive DeprecationDecl where
  | flag (deprecated : Bool)
  | message (text : String)
deriving DecidableEq, Inhabited

structure PropertyDecl where
  name : String
  type : String
  required : Bool := false
  description : Option String := none
  aliases : List String := []
  deprecated : Option DeprecationDecl := none
deriving DecidableEq, Inhabited

structure ValueDeprecationDecl where
  message : Option String := none
  replacement : Option String := none
deriving DecidableEq, Inhabited

inductive KindDecl where
  | atomic
  | any
  | bean (properties : List PropertyDecl)
  | map (key value : String)
  | sequence (element : String)
  | union (members : List String)
  | enumeration (values : List String) (deprecated : List (String × ValueDeprecationDecl))
  | integer (least most : Option Int)
  | indexed
deriving DecidableEq, Inhabited

structure TypeDecl where
  name : String
  kind : KindDecl
  hints : List String := []
  constraints : List Constraint := []
deriving DecidableEq, Inhabited

structure DialectDecl where
  name : String
  root : String
  files : List String := []
  types : List TypeDecl := []
  constraints : List Constraint := []
deriving DecidableEq, Inhabited

structure TypeNames where
  references : List (String × TypeId) := []
  built : List (String × TypeId) := []

namespace TypeNames

def reference? (names : TypeNames) (name : String) : Option TypeId :=
  (names.references.find? (·.1 == name)).map (·.2)

def built? (names : TypeNames) (name : String) : Option TypeId :=
  (names.built.find? (·.1 == name)).map (·.2)

end TypeNames

namespace GraphBuilder

def builtin? (name : String) : Option TypeDef :=
  if name = "String" ∨ name = "string" then some { name := "String", kind := .atomic }
  else if name = "Number" ∨ name = "number" then some { name := "Number", kind := .atomic }
  else if name = "boolean" ∨ name = "Boolean" then some booleanDef
  else if name = "integer" ∨ name = "Integer" then some (integerDef "integer" none none)
  else if name = "any" ∨ name = "Any" then some { name := "Any", kind := .any }
  else none

/-- The type of a name that `owner` uses. Every use of a type without declaration is a type of its own. -/
def named (names : TypeNames) (name owner : String) : GraphBuilder TypeId :=
  match names.reference? name with
  | some type => return type
  | none =>
      match builtin? name with
      | some definition => add definition
      | none => throw (.unknownType name owner)

end GraphBuilder

namespace PropertyDecl

def property (declaration : PropertyDecl) (type : TypeId) : Property :=
  { name := declaration.name
    type
    description := (declaration.description.map Markdown.text).getD .empty
    aliases := declaration.aliases
    required := declaration.required
    deprecated := declaration.deprecated.any (· != .flag false)
    deprecation := match declaration.deprecated with
      | some (.message text) => some text
      | _ => none }

def build (names : TypeNames) (owner : String) (declaration : PropertyDecl) : GraphBuilder Property := do
  return declaration.property (← GraphBuilder.named names declaration.type owner)

end PropertyDecl

namespace ValueDeprecationDecl

def deprecation (value : String) (declaration : ValueDeprecationDecl) : ValueDeprecation :=
  match declaration.replacement, declaration.message with
  | some replacement, _ => .replacedBy value replacement
  | none, some message => .because value message
  | none, none => .withoutReason value

end ValueDeprecationDecl

namespace TypeDecl

def member (names : TypeNames) (owner member : String) : Except SchemaError TypeId :=
  match names.built? member with
  | some type => .ok type
  | none => .error (.invalidType owner (.undeclaredMember member))

def enumeration (name : String) (values : List String)
    (deprecated : List (String × ValueDeprecationDecl)) : Except SchemaError TypeDef :=
  match deprecated.find? fun entry => !values.contains entry.1 with
  | some (value, _) => .error (.invalidType name (.unknownDeprecated value))
  | none => .ok (GraphBuilder.enumerationDef name values
      (deprecated.map fun (value, declaration) => declaration.deprecation value))

def kindDef (names : TypeNames) (declaration : TypeDecl) : GraphBuilder TypeDef :=
  let name := declaration.name
  match declaration.kind with
  | .atomic => return { name, kind := .atomic }
  | .any => return { name, kind := .any }
  | .bean properties => do
      return { name, kind := .bean (← properties.mapM (PropertyDecl.build names name)) }
  | .map key value => do
      let key ← GraphBuilder.named names key name
      let value ← GraphBuilder.named names value name
      GraphBuilder.mapDef key value
  | .sequence element => do GraphBuilder.sequenceDef (← GraphBuilder.named names element name)
  | .union members => do
      let members ← members.mapM fun each => (member names name each : Except SchemaError TypeId)
      GraphBuilder.unionDef name members
  | .enumeration values deprecated => do
      return ← (enumeration name values deprecated : Except SchemaError TypeDef)
  | .integer least most => return GraphBuilder.integerDef name least most
  | .indexed => return GraphBuilder.indexedDef name

def build (names : TypeNames) (declaration : TypeDecl) : GraphBuilder TypeNames := do
  let definition ← declaration.kindDef names
  let type ← GraphBuilder.add { definition with
    hints := definition.hints ++ declaration.hints.map Hint.of
    constraints := declaration.constraints }
  match names.reference? declaration.name with
  | some reference => GraphBuilder.bind reference type
  | none => pure ()
  return { names with built := (declaration.name, type) :: names.built }

def announce (names : TypeNames) (declaration : TypeDecl) : GraphBuilder TypeNames := do
  if (names.reference? declaration.name).isSome then
    throw (.invalidType declaration.name .declaredTwice)
  let reference ← GraphBuilder.reference declaration.name
  return { names with references := (declaration.name, reference) :: names.references }

end TypeDecl

namespace DialectDecl

def buildTypes (declaration : DialectDecl) : GraphBuilder TypeId := do
  let names ← declaration.types.foldlM TypeDecl.announce {}
  let names ← declaration.types.foldlM TypeDecl.build names
  match names.built? declaration.root with
  | some root => return root
  | none => GraphBuilder.named names declaration.root declaration.name

def dialect (declaration : DialectDecl) (compile : String → Option Pattern := Pattern.ofText?) :
    Except SchemaError Dialect := do
  let (root, graph) ← declaration.buildTypes.run {}
  let files ← declaration.files.mapM (FilePattern.ofText · compile)
  return { name := declaration.name, graph, root, files, constraints := declaration.constraints }

end DialectDecl
end YamlDialects

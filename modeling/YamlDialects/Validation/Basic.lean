import YamlDialects.Schema.Dialect

/-!
Checks on single keys and values. What is found is a problem, or a constraint that is verified when the
whole document has been seen.
-/

set_option autoImplicit false

namespace YamlDialects

structure Check where
  constraint : Constraint
  context : SchemaContext
  target : ConstraintTarget

inductive Finding where
  | problem (found : Problem)
  | check (deferred : Check)

namespace Finding

def problem? : Finding → Option Problem
  | .problem found => some found
  | .check _ => none

def check? : Finding → Option Check
  | .problem _ => none
  | .check deferred => some deferred

end Finding

def Check.problems (check : Check) : List Problem :=
  match check.constraint.verify check.context check.target with
  | .ok problems => problems
  | .error _ => []

namespace Validation

/-- Template placeholders are filled in later, so their content is not checked. -/
def isTemplated (text : String) : Bool :=
  Text.containsText text "\x7b\x7b" || Text.containsText text "$\x7b"

def isUnconstrained (schema : Schema) (type : TypeId) : Bool :=
  schema.isAny type ||
    (schema.isAtomic type && schema.isMap type && schema.isBean type && schema.isSequence type)

/-- What a key means for a bean. A key of several members of an undecided union is ambiguous. -/
inductive KeyLookup where
  | known (property : Property)
  | ambiguous
  | unknown

def lookup (schema : Schema) (type : TypeId) (key : String) : KeyLookup :=
  if schema.isUnion type then
    match (schema.members type).filterMap fun member => schema.property? member key with
    | [] => .unknown
    | [property] => .known property
    | _ => .ambiguous
  else
    match schema.property? type key with
    | some property => .known property
    | none => .unknown

def KeyLookup.property? : KeyLookup → Option Property
  | .known property => some property
  | _ => none

def KeyLookup.isUnknown : KeyLookup → Bool
  | .unknown => true
  | _ => false

def mismatch (schema : Schema) (type : TypeId) (found : String) (region : Region) : Finding :=
  .problem (Problem.of .typeMismatch region
    ("Expecting a '" ++ schema.niceName type ++ "' but found a '" ++ found ++ "'"))

def unknownProperty (schema : Schema) (type : TypeId) (key : String) (region : Region) : Problem :=
  Problem.of .unknownProperty region
    ("Unknown property '" ++ key ++ "' for type '" ++ schema.niceName type ++ "'")

def deprecatedProperty (schema : Schema) (type : TypeId) (key : String) (property : Property)
    (region : Region) : Problem :=
  Problem.of .deprecated region
    (property.deprecation.getD ("Property '" ++ key ++ "' of '" ++ schema.niceName type ++ "' is deprecated"))

def keyFindings (schema : Schema) (type : TypeId) (key : String) (region : Region) : List Finding :=
  match lookup schema type key with
  | .unknown => [.problem (unknownProperty schema type key region)]
  | .ambiguous => []
  | .known property =>
      if property.deprecated then [.problem (deprecatedProperty schema type key property region)] else []

def missingNames (schema : Schema) (type : TypeId) (defined : List String) : List String :=
  ((schema.properties type).filter fun property =>
    property.required && !defined.contains property.name).map (·.name)

def missingFindings (schema : Schema) (type : TypeId) (defined : List String) (region : Region) :
    List Finding :=
  let owner := " required for '" ++ schema.niceName type ++ "'"
  match missingNames schema type defined with
  | [] => []
  | [name] => [.problem (Problem.of .missingRequired region ("Property '" ++ name ++ "' is" ++ owner))]
  | names =>
      [.problem (Problem.of .missingRequired region ("Properties " ++ Text.bracketed names ++ " are" ++ owner))]

def faultRegion (node : Region) : Option Region → Region
  | none => node
  | some part =>
      let start := min (node.start + part.start) node.stop
      ⟨start, max start (min (node.start + part.stop) node.stop)⟩

def faultProblem (schema : Schema) (type : TypeId) (node : Region) (fault : ValueFault) : Problem :=
  let region := faultRegion node fault.highlight
  if fault.deprecated then Problem.of .deprecated region fault.message fault.replacement
  else
    Problem.of .invalidValue region
      (if fault.message.isEmpty then "Couldn't parse as '" ++ schema.niceName type ++ "'" else fault.message)

def valueFindings (schema : Schema) (type : TypeId) (text : String) (region : Region) : List Finding :=
  if schema.isAtomic type then
    ((schema.fault? type text).map fun fault => .problem (faultProblem schema type region fault)).toList
  else if isUnconstrained schema type then []
  else [mismatch schema type "Scalar" region]

def checks (constraints : List Constraint) (context : SchemaContext) (target : ConstraintTarget) :
    List Finding :=
  constraints.map fun constraint => .check ⟨constraint, context, target⟩

end Validation
end YamlDialects

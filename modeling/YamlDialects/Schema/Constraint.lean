import YamlDialects.Problem
import YamlDialects.Schema.Context
import YamlDialects.Text.Search

/-!
Constraints on the keys of one node. They are checked after the types, once for each node of their type.
A constraint that a caller brings in code is left out.
-/

set_option autoImplicit false

namespace YamlDialects

inductive Constraint where
  | requireOneOf (names : List String)
  | atMostOneOf (names : List String)
  /-- The template's `{name}` stands for the name of the key. -/
  | deprecated (names : List String) (template : String)
  | requireWith (names : List String) (companion : String)
  | singleKey (message : String)
  | requireKey (name message : String)
  | whenDefined (name : String) (constraint : Constraint)
  | failing (reason : String)
deriving DecidableEq, Inhabited

structure FoundKey where
  name : String
  region : Region
deriving DecidableEq, Inhabited

structure ConstraintTarget where
  parent : Option Region
  node : Region
  key : Option Region
  typeName : String
  found : List FoundKey

structure ConstraintError where
  reason : String

def ConstraintError.message (error : ConstraintError) : String :=
  "constraint failed: " ++ error.reason

namespace ConstraintTarget

def anchor (target : ConstraintTarget) : Region :=
  target.key.getD target.node

def matching (target : ConstraintTarget) (names : List String) : List FoundKey :=
  target.found.filter fun key => names.contains key.name

def has (target : ConstraintTarget) (name : String) : Bool :=
  target.found.any (·.name == name)

end ConstraintTarget

namespace Constraint

def exclusive (names : List String) (found : List FoundKey) : List Problem :=
  if found.length < 2 then []
  else found.map fun key =>
    Problem.of .mutuallyExclusive key.region ("Only one of " ++ Text.bracketed names ++ " should be defined")

def missing (names : List String) (target : ConstraintTarget) : Problem :=
  Problem.of .missingRequired target.anchor
    ("One of " ++ Text.bracketed names ++ " is required for '" ++ target.typeName ++ "'")

def nameMark : String :=
  "\x7bname\x7d"

def deprecation (template : String) (key : FoundKey) : Problem :=
  Problem.of .deprecated key.region (Text.replaceAll template nameMark key.name)

def lacksCompanion (companion : String) (key : FoundKey) : Problem :=
  Problem.of .missingRequired key.region ("'" ++ key.name ++ "' requires '" ++ companion ++ "'")

def verify (context : SchemaContext) (target : ConstraintTarget) :
    Constraint → Except ConstraintError (List Problem)
  | .requireOneOf names =>
      .ok (if (target.matching names).isEmpty then [missing names target]
        else exclusive names (target.matching names))
  | .atMostOneOf names => .ok (exclusive names (target.matching names))
  | .deprecated names template => .ok ((target.matching names).map (deprecation template))
  | .requireWith names companion =>
      .ok (if target.has companion then [] else (target.matching names).map (lacksCompanion companion))
  | .singleKey message =>
      .ok ((target.found.drop 1).map fun key => Problem.of .mutuallyExclusive key.region message)
  | .requireKey name message =>
      .ok (if !context.source.hasKeys || target.has name then []
        else [Problem.of .missingRequired ((target.found.head?.map (·.region)).getD target.node) message])
  | .whenDefined name constraint =>
      if context.isDefined name then verify context target constraint else .ok []
  | .failing reason => .error ⟨reason⟩

end Constraint
end YamlDialects

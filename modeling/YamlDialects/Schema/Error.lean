set_option autoImplicit false

namespace YamlDialects

inductive TypeFault where
  | declaredTwice
  | definedTwice
  | notReference
  | tooFewMembers
  | undeclaredMember (member : String)
  | memberNotBean (member : String)
  | memberNotUnique (member : String)
  | unknownDeprecated (value : String)
deriving DecidableEq

inductive SchemaError where
  | unreadable
  | malformed
  | unknownType (name owner : String)
  | badPattern (pattern : String)
  | invalidType (name : String) (fault : TypeFault)
deriving DecidableEq

namespace TypeFault

def message : TypeFault → String
  | .declaredTwice => "declared twice"
  | .definedTwice => "defined twice"
  | .notReference => "not a forward reference"
  | .tooFewMembers => "a union needs at least two members"
  | .undeclaredMember member => "union member '" ++ member ++ "' must be a bean declared before the union"
  | .memberNotBean member => "union member '" ++ member ++ "' is not a bean"
  | .memberNotUnique member => "union member '" ++ member ++ "' has no unique property"
  | .unknownDeprecated value => "deprecated value '" ++ value ++ "' is not one of the values"

end TypeFault

namespace SchemaError

def message : SchemaError → String
  | .unreadable => "failed to read dialect file: No such file or directory (os error 2)"
  | .malformed => "malformed dialect definition"
  | .unknownType name owner => "unknown type '" ++ name ++ "' referenced from '" ++ owner ++ "'"
  | .badPattern pattern => "invalid file pattern '" ++ pattern ++ "'"
  | .invalidType name fault => "invalid type definition '" ++ name ++ "': " ++ fault.message

end SchemaError
end YamlDialects

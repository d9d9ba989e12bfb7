import YamlDialects.Schema.Index
import YamlDialects.Text.Blank
import YamlDialects.Text.Offset
import YamlDialects.Text.Search
import YamlDialects.Width

/-!
Rules that a scalar value has to meet: those that declarations, the built-in dialects and a property
index bring. A parser that a caller brings in code is left out.
-/

set_option autoImplicit false

namespace YamlDialects

/-- Why a value is not accepted, or accepted but deprecated. -/
structure ValueFault where
  message : String
  /-- The part of the value at fault, counted from its start. -/
  highlight : Option Region := none
  deprecated : Bool := false
  replacement : Option String := none
deriving DecidableEq, Inhabited

structure ValueDeprecation where
  value : String
  message : String
  replacement : Option String := none
deriving DecidableEq, Inhabited

inductive ValueRule where
  | integer (least most : Option Int)
  | oneOf (typeName : String) (values : List String) (deprecations : List ValueDeprecation)
  | rejecting (part : String) (fault : ValueFault)
  | indexed
deriving DecidableEq

namespace ValueDeprecation

def replacedBy (value replacement : String) : ValueDeprecation :=
  ⟨value, "The value '" ++ value ++ "' is deprecated in favor of '" ++ replacement ++ "'", some replacement⟩

def because (value message : String) : ValueDeprecation :=
  ⟨value, message, none⟩

def withoutReason (value : String) : ValueDeprecation :=
  because value ("The value '" ++ value ++ "' is deprecated")

end ValueDeprecation

namespace ValueRule

def magnitude? (digits : List Char) : Option Nat :=
  if digits.isEmpty || !digits.all Char.isDigit then none
  else some (digits.foldl (fun total c => 10 * total + (c.toNat - 48)) 0)

def integer? (chars : List Char) : Option Int :=
  let value := match chars with
    | '-' :: digits => (magnitude? digits).map fun size => -(size : Int)
    | '+' :: digits => (magnitude? digits).map Int.ofNat
    | digits => (magnitude? digits).map Int.ofNat
  value.filter (Width.isSigned 64)

def checkInteger (least most : Option Int) (value : String) : Option ValueFault :=
  match integer? (Text.trim value.toList) with
  | none => some { message := "'" ++ value ++ "' is not a valid integer" }
  | some number =>
      match least.filter (number < ·), most.filter (number > ·) with
      | some bound, _ => some { message := "Value must be at least " ++ toString bound }
      | none, some bound => some { message := "Value must be at most " ++ toString bound }
      | none, none => none

def checkOneOf (typeName : String) (values : List String) (deprecations : List ValueDeprecation)
    (value : String) : Option ValueFault :=
  if !values.contains value then
    some { message := "'" ++ value ++ "' is an unknown '" ++ typeName ++ "'. Valid values are: "
      ++ Text.bracketed values }
  else
    (deprecations.find? (·.value == value)).map fun found =>
      { message := found.message, deprecated := true, replacement := found.replacement }

def checkIndexed (index : Option PropertyIndex) (value : String) : Option ValueFault :=
  match index with
  | none => none
  | some index =>
      match index.get? value with
      | none => some { message := "Unknown property '" ++ value ++ "'" }
      | some info => info.deprecation.map fun message => { message, deprecated := true }

def check (rule : ValueRule) (index : Option PropertyIndex) (value : String) : Option ValueFault :=
  match rule with
  | .integer least most => checkInteger least most value
  | .oneOf typeName values deprecations => checkOneOf typeName values deprecations value
  | .rejecting part fault => if Text.containsText value part then some fault else none
  | .indexed => checkIndexed index value

end ValueRule
end YamlDialects

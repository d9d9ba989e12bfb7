import YamlDialects.Width

/-!
JSON values. A member list keeps the order and the repetitions of its source, and a number that is not
an integer keeps its spelling. A string whose escapes make no text is garbled, and so is an object with such
a name: it can be passed over but not read.
-/

set_option autoImplicit false

namespace YamlDialects

inductive Json where
  | null
  | bool (value : Bool)
  | int (value : Int)
  | decimal (literal : String)
  | string (value : String)
  | array (items : List Json)
  | object (members : List (String × Json))
  | garbled
deriving Inhabited

namespace Json

def nat (value : Nat) : Json :=
  .int value

def get? (name : String) : Json → Option Json
  | .object members => (members.reverse.find? (·.1 == name)).map (·.2)
  | _ => none

def path? (names : List String) (value : Json) : Option Json :=
  names.foldl (fun found name => found.bind (get? name)) (some value)

def string? : Json → Option String
  | .string value => some value
  | _ => none

def bool? : Json → Option Bool
  | .bool value => some value
  | _ => none

def int? : Json → Option Int
  | .int value => some value
  | _ => none

def nat? (bits : Nat) : Json → Option Nat
  | .int (.ofNat value) => if Width.isUnsigned bits value then some value else none
  | _ => none

def array? : Json → Option (List Json)
  | .array items => some items
  | _ => none

def strings? (value : Json) : Option (List String) :=
  value.array?.bind (·.mapM string?)

mutual

def isReadable : Json → Bool
  | .garbled => false
  | .array items => areReadable items
  | .object members => areMembersReadable members
  | _ => true

def areReadable : List Json → Bool
  | [] => true
  | item :: rest => isReadable item && areReadable rest

def areMembersReadable : List (String × Json) → Bool
  | [] => true
  | (_, value) :: rest => isReadable value && areMembersReadable rest

end

def isNull : Json → Bool
  | .null => true
  | _ => false

def ofOption {α : Type} (encode : α → Json) : Option α → Json
  | some value => encode value
  | none => .null

def strings (values : List String) : Json :=
  .array (values.map .string)

def record (members : List (String × Option Json)) : Json :=
  .object (members.filterMap fun (name, value) => value.map (name, ·))

end Json
end YamlDialects

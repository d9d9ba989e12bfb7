import YamlDialects.Text.CharSet

set_option autoImplicit false

namespace YamlDialects.Text

structure NamedSet where
  names : List String
  rows : List String

namespace NamedSet

def hexValue (c : Char) : Nat :=
  if c.isDigit then c.toNat - 48 else c.toNat - 87

/-- Reads ranges such as `41-5a` and single numbers, divided by blanks: the range so far is given by its
first number, if that is complete, and the number that is being read. -/
def ranges (first : Option Nat) (number : Nat) : List Char → List (Nat × Nat)
  | [] => [(first.getD number, number)]
  | ' ' :: rest => (first.getD number, number) :: ranges none 0 rest
  | '-' :: rest => ranges (some number) 0 rest
  | c :: rest => ranges first (16 * number + hexValue c) rest

def charSet (set : NamedSet) : CharSet :=
  .ofRanges (set.rows.flatMap fun row => ranges none 0 row.toList)

def find? (table : List NamedSet) (name : String) : Option CharSet :=
  (table.find? (·.names.contains name)).map charSet

end NamedSet
end YamlDialects.Text

set_option autoImplicit false

namespace YamlDialects.Width

def isUnsigned (bits : Nat) (value : Int) : Bool :=
  0 ≤ value && value < (Nat.pow 2 bits : Nat)

def isSigned (bits : Nat) (value : Int) : Bool :=
  -(Nat.pow 2 (bits - 1) : Nat) ≤ value && value < (Nat.pow 2 (bits - 1) : Nat)

def low (bits value : Nat) : Nat :=
  value % Nat.pow 2 bits

def fits (bits : Nat) (value : Int) : Bool :=
  isSigned bits value || isUnsigned bits value

end YamlDialects.Width

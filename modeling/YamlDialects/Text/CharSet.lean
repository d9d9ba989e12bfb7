import YamlDialects.Text.Word

set_option autoImplicit false

namespace YamlDialects.Text

def zeros : List Nat := [
  0x30, 0x660, 0x6f0, 0x7c0, 0x966, 0x9e6, 0xa66, 0xae6, 0xb66, 0xbe6, 0xc66, 0xce6, 0xd66, 0xde6,
  0xe50, 0xed0, 0xf20, 0x1040, 0x1090, 0x17e0, 0x1810, 0x1946, 0x19d0, 0x1a80, 0x1a90, 0x1b50,
  0x1bb0, 0x1c40, 0x1c50, 0xa620, 0xa8d0, 0xa900, 0xa9d0, 0xa9f0, 0xaa50, 0xabf0, 0xff10, 0x104a0,
  0x10d30, 0x10d40, 0x11066, 0x110f0, 0x11136, 0x111d0, 0x112f0, 0x11450, 0x114d0, 0x11650, 0x116c0,
  0x116d0, 0x116da, 0x11730, 0x118e0, 0x11950, 0x11bf0, 0x11c50, 0x11d50, 0x11da0, 0x11de0, 0x11f50,
  0x16130, 0x16a60, 0x16ac0, 0x16b50, 0x16d70, 0x1ccf0, 0x1d7ce, 0x1d7d8, 0x1d7e2, 0x1d7ec, 0x1d7f6,
  0x1e140, 0x1e2f0, 0x1e4f0, 0x1e5f1, 0x1e950, 0x1fbf0]

def isDigit (c : Char) : Bool :=
  zeros.any fun first => first ≤ c.toNat && c.toNat < first + 10

structure CharSet where
  ranges : List (Nat × Nat) := []
deriving DecidableEq, Inhabited

namespace CharSet

def lastCode : Nat := 0x10ffff

def inRanges (code : Nat) : List (Nat × Nat) → Bool
  | [] => false
  | range :: rest => if code < range.1 then false else code ≤ range.2 || inRanges code rest

def contains (set : CharSet) (code : Nat) : Bool :=
  inRanges code set.ranges

def join (range : Nat × Nat) : List (Nat × Nat) → List (Nat × Nat)
  | [] => [range]
  | next :: rest =>
      if next.1 ≤ range.2 + 1 then join (range.1, max range.2 next.2) rest else range :: join next rest

def ofRanges (ranges : List (Nat × Nat)) : CharSet :=
  match ranges.mergeSort fun left right => left.1 ≤ right.1 with
  | [] => ⟨[]⟩
  | range :: rest => ⟨join range rest⟩

def range (first last : Nat) : CharSet :=
  ⟨[(first, last)]⟩

def single (code : Nat) : CharSet :=
  range code code

def union (left right : CharSet) : CharSet :=
  ofRanges (left.ranges ++ right.ranges)

def gaps (start : Nat) : List (Nat × Nat) → List (Nat × Nat)
  | [] => if start ≤ lastCode then [(start, lastCode)] else []
  | range :: rest =>
      if start < range.1 then (start, range.1 - 1) :: gaps (range.2 + 1) rest else gaps (range.2 + 1) rest

def complement (set : CharSet) : CharSet :=
  ⟨gaps 0 set.ranges⟩

def inter (left right : CharSet) : CharSet :=
  (left.complement.union right.complement).complement

def diff (left right : CharSet) : CharSet :=
  left.inter right.complement

def symmDiff (left right : CharSet) : CharSet :=
  (left.union right).diff (left.inter right)

def isAscii (set : CharSet) : Bool :=
  set.ranges.all (·.2 < 0x80)

def only? (set : CharSet) : Option Nat :=
  match set.ranges with
  | [(first, last)] => if first = last then some first else none
  | _ => none

def pairs : List Nat → List (Nat × Nat)
  | low :: high :: rest => (low, high - 1) :: pairs rest
  | _ => []

def word : CharSet :=
  ⟨pairs wordIntervals⟩

def digit : CharSet :=
  ⟨zeros.map fun first => (first, first + 9)⟩

def blank : CharSet :=
  ⟨[(0x9, 0xd), (0x20, 0x20), (0x85, 0x85), (0xa0, 0xa0), (0x1680, 0x1680), (0x2000, 0x200a), (0x2028, 0x2029),
    (0x202f, 0x202f), (0x205f, 0x205f), (0x3000, 0x3000)]⟩

end CharSet
end YamlDialects.Text

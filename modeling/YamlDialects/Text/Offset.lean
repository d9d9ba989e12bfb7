/-!
Byte offsets into a text. A text is a list of characters, an offset counts the bytes of the UTF-8
encoding, and it is a boundary when no character straddles it.
-/

set_option autoImplicit false

namespace YamlDialects.Text

def byteLength : List Char → Nat
  | [] => 0
  | c :: rest => c.utf8Size + byteLength rest

def dropBytes? : List Char → Nat → Option (List Char)
  | chars, 0 => some chars
  | [], _ + 1 => none
  | c :: rest, count + 1 =>
      if c.utf8Size ≤ count + 1 then dropBytes? rest (count + 1 - c.utf8Size) else none

def takeBytes? : List Char → Nat → Option (List Char)
  | _, 0 => some []
  | [], _ + 1 => none
  | c :: rest, count + 1 =>
      if c.utf8Size ≤ count + 1 then
        (takeBytes? rest (count + 1 - c.utf8Size)).map (c :: ·)
      else none

def IsBoundary (chars : List Char) (offset : Nat) : Prop :=
  (dropBytes? chars offset).isSome

instance (chars : List Char) (offset : Nat) : Decidable (IsBoundary chars offset) :=
  inferInstanceAs (Decidable (_ = true))

def slice? (chars : List Char) (start stop : Nat) : Option (List Char) :=
  if start ≤ stop then (dropBytes? chars start).bind (takeBytes? · (stop - start)) else none

def floorBoundary : List Char → Nat → Nat
  | [], _ => 0
  | c :: rest, offset =>
      if c.utf8Size ≤ offset then c.utf8Size + floorBoundary rest (offset - c.utf8Size) else 0

def findOffset? (wanted : Char → Bool) : List Char → Option Nat
  | [] => none
  | c :: rest => if wanted c then some 0 else (findOffset? wanted rest).map (c.utf8Size + ·)

def splitBytes (chars : List Char) (offset : Nat) : List Char × List Char :=
  match takeBytes? chars offset, dropBytes? chars offset with
  | some before, some after => (before, after)
  | _, _ => (chars, [])

/-- Text between two offsets; empty when they are no boundaries. -/
def slice (text : String) (start stop : Nat) : String :=
  String.ofList ((slice? text.toList start stop).getD [])

end YamlDialects.Text

namespace YamlDialects

structure Region where
  start : Nat
  stop : Nat
deriving DecidableEq, Inhabited

namespace Region

def empty (offset : Nat) : Region :=
  ⟨offset, offset⟩

def length (region : Region) : Nat :=
  region.stop - region.start

def isEmpty (region : Region) : Bool :=
  region.start == region.stop

def contains (region : Region) (offset : Nat) : Bool :=
  region.start ≤ offset && offset < region.stop

def encloses (outer inner : Region) : Bool :=
  outer.start ≤ inner.start && inner.stop ≤ outer.stop

def overlaps (first second : Region) : Bool :=
  first.start < second.stop && second.start < first.stop

def text (region : Region) (source : String) : String :=
  Text.slice source region.start region.stop

def render (region : Region) : String :=
  "[" ++ toString region.start ++ ", " ++ toString region.stop ++ ")"

def before (first second : Region) : Bool :=
  first.start < second.start || (first.start == second.start && first.stop < second.stop)

end Region
end YamlDialects

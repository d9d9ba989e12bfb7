import YamlDialects.Text.CharSet

set_option autoImplicit false

namespace YamlDialects

open Text (CharSet)

inductive WordEdge where
  | boundary
  | inside
  | start
  | stop
  | startHalf
  | stopHalf
deriving DecidableEq, Inhabited

inductive Assertion where
  | textStart
  | textStop
  | lineStart (carriage : Bool)
  | lineStop (carriage : Bool)
  | word (edge : WordEdge) (ascii : Bool)
deriving DecidableEq, Inhabited

inductive Pattern where
  | empty
  | one (set : CharSet)
  | assertion (condition : Assertion)
  | group (inner : Pattern)
  | concat (first second : Pattern)
  | either (left right : Pattern)
  | repeated (inner : Pattern) (least : Nat) (most : Option Nat)
deriving Inhabited

namespace WordEdge

def holds (before after : Bool) : WordEdge → Bool
  | .boundary => before != after
  | .inside => before == after
  | .start => !before && after
  | .stop => before && !after
  | .startHalf => !before
  | .stopHalf => !after

end WordEdge

namespace Assertion

def isAsciiWord (c : Char) : Bool :=
  c.isAlphanum || c == '_'

def holds (before after : Option Char) : Assertion → Bool
  | .textStart => before.isNone
  | .textStop => after.isNone
  | .lineStart false => before.isNone || before == some '\n'
  | .lineStart true =>
      before.isNone || before == some '\n' || (before == some '\r' && after != some '\n')
  | .lineStop false => after.isNone || after == some '\n'
  | .lineStop true =>
      after.isNone || after == some '\r' || (after == some '\n' && before != some '\r')
  | .word edge ascii =>
      let isWord := if ascii then isAsciiWord else Text.isWord
      edge.holds (before.any isWord) (after.any isWord)

end Assertion

namespace Pattern

abbrev Places := List Bool

def join (left right : Places) : Places :=
  List.zipWith (· || ·) left right

def advance (set : CharSet) (text : List Char) (places : Places) : Places :=
  false :: List.zipWith (fun c here => here && set.contains c.toNat) text places

def placesOf (condition : Assertion) (before : Option Char) : List Char → Places
  | [] => [condition.holds before none]
  | c :: rest => condition.holds before (some c) :: placesOf condition (some c) rest

def iterate (step : Places → Places) : Nat → Places → Places
  | 0, places => places
  | count + 1, places =>
      let next := step places
      if next == places then places else iterate step count next

def reach (step : Places → Places) : Nat → Places → Places
  | 0, places => places
  | count + 1, places =>
      let next := join places (step places)
      if next == places then places else reach step count next

def stops (text : List Char) : Pattern → Places → Places
  | .empty, places => places
  | .one set, places => advance set text places
  | .assertion condition, places => List.zipWith (· && ·) (placesOf condition none text) places
  | .group inner, places => stops text inner places
  | .concat first second, places => stops text second (stops text first places)
  | .either left right, places => join (stops text left places) (stops text right places)
  | .repeated inner least most, places =>
      let start := iterate (stops text inner) least places
      match most with
      | none => reach (stops text inner) (text.length + 1) start
      | some most => reach (stops text inner) (most - least) start

def occursIn (pattern : Pattern) (text : String) : Bool :=
  let chars := text.toList
  (pattern.stops chars (List.replicate (chars.length + 1) true)).any id

end Pattern
end YamlDialects

namespace YamlDialects

open Text (CharSet)

namespace Pattern

def stateSize : Nat := 32

def maxSize : Nat := 10 * 1024 * 1024

def byteParts : Nat → Nat → Nat → List (Nat × Nat)
  | 0, _, _ => []
  | fuel + 1, first, last =>
      let cutAt := fun stop => byteParts fuel first stop ++ byteParts fuel (stop + 1) last
      let widths := [0x7f, 0x7ff, 0xffff].filter fun top => first ≤ top && top < last
      let blocks := [0x40, 0x1000, 0x40000].filterMap fun size =>
        if first / size == last / size || last < 0x80 then none
        else if first % size != 0 then some (first / size * size + size - 1)
        else if last % size != size - 1 then some (last / size * size - 1)
        else none
      if first > last then []
      else if first < 0xe000 && last > 0xd7ff then byteParts fuel first 0xd7ff ++ byteParts fuel 0xe000 last
      else
        match widths ++ blocks with
        | stop :: _ => cutAt stop
        | [] => [(first, last)]

def encoded (code : Nat) : List UInt8 :=
  (String.singleton (Char.ofNat code)).toUTF8.toList

def byteRanges (part : Nat × Nat) : List (UInt8 × UInt8) :=
  (encoded part.1).zip (encoded part.2)

def shared {α : Type} [BEq α] : List α → List α → Nat
  | left :: lefts, right :: rights => if left == right then shared lefts rights + 1 else 0
  | _, _ => 0

/-- Number of states for byte sequences in ascending order, which share what they start with. -/
def treeStates (before : List (UInt8 × UInt8)) : List (List (UInt8 × UInt8)) → Nat
  | [] => 0
  | bytes :: rest => (bytes.length - shared before bytes) + treeStates bytes rest

def setSize (set : CharSet) : Nat :=
  match set.only? with
  | some code => stateSize * (encoded code).length
  | none =>
      if set.isAscii then 2 * stateSize + 8 * set.ranges.length
      else
        let parts := set.ranges.flatMap fun (first, last) => byteParts 64 first last
        2 * stateSize + 4 * parts.length + stateSize * treeStates [] (parts.map byteRanges)

def isZeroWidth : Pattern → Bool
  | .empty => true
  | .one _ => false
  | .assertion _ => true
  | .group inner => isZeroWidth inner
  | .concat first second => isZeroWidth first && isZeroWidth second
  | .either left right => isZeroWidth left && isZeroWidth right
  | .repeated inner _ most => isZeroWidth inner || most == some 0

def repeatedSize (inner least : Nat) : Option Nat → Nat
  | none => max least 1 * inner + stateSize + 8
  | some most =>
      if most = 0 then stateSize
      else if most = least then most * inner
      else least * inner + (most - least) * (inner + stateSize + 8) + stateSize

/-- The size of a pattern, which may be an alternative of a choice whose own states are counted already. -/
def sizeFrom (inChoice : Bool) : Pattern → Nat
  | .either left right =>
      (if inChoice then 0 else 2 * stateSize) + 4 + sizeFrom false left + sizeFrom true right
  | .empty => branch + stateSize
  | .one set => branch + setSize set
  | .assertion _ => branch + stateSize
  | .group inner => branch + 2 * stateSize + sizeFrom false inner
  | .concat first second => branch + sizeFrom false first + sizeFrom false second
  | .repeated inner least most =>
      if isZeroWidth inner then
        branch + repeatedSize (sizeFrom false inner) (min least 1) (some ((most.map (min · 1)).getD 1))
      else branch + repeatedSize (sizeFrom false inner) least most
where
  branch : Nat := if inChoice then 4 else 0

def size (pattern : Pattern) : Nat :=
  pattern.sizeFrom false

end Pattern
end YamlDialects

import YamlDialects.Text.Unicode.Composition

set_option autoImplicit false

namespace YamlDialects.Text

def combiningSets : List (Nat × CharSet) :=
  combiningClasses.map fun (number, rows) => (number, (NamedSet.mk [] rows).charSet)

def combiningClass (code : Nat) : Nat :=
  ((combiningSets.find? fun entry => entry.2.contains code).map (·.1)).getD 0

structure Composition where
  first : Nat
  second : Nat
  whole : Nat

/-- Reads entries such as `41.300>c0`; the numbers before the one that is being read are given. -/
def readCompositions (first second number : Nat) : List Char → List Composition
  | [] => [⟨first, second, number⟩]
  | ' ' :: rest => ⟨first, second, number⟩ :: readCompositions 0 0 0 rest
  | '.' :: rest => readCompositions number 0 0 rest
  | '>' :: rest => readCompositions first number 0 rest
  | c :: rest => readCompositions first second (16 * number + NamedSet.hexValue c) rest

def compositionTable : List Composition :=
  compositions.flatMap fun row => readCompositions 0 0 0 row.toList

namespace Syllable

def base : Nat := 0xac00
def lead : Nat := 0x1100
def vowel : Nat := 0x1161
def tail : Nat := 0x11a7

/-- Syllables are composed by calculation: a lead with a vowel, and then with a tail. -/
def compose? (first second : Nat) : Option Nat :=
  if lead ≤ first && first < lead + 19 && vowel ≤ second && second < vowel + 21 then
    some (base + 588 * (first - lead) + 28 * (second - vowel))
  else if base ≤ first && first < base + 11172 && (first - base) % 28 == 0 && tail < second && second < tail + 28 then
    some (first + (second - tail))
  else none

def decompose? (code : Nat) : Option (List Nat) :=
  if base ≤ code && code < base + 11172 then
    let place := code - base
    let ending := place % 28
    some ([lead + place / 588, vowel + place % 588 / 28] ++ if ending == 0 then [] else [tail + ending])
  else none

end Syllable

def composed? (first second : Nat) : Option Nat :=
  (Syllable.compose? first second).orElse fun _ =>
    (compositionTable.find? fun entry => entry.first == first && entry.second == second).map (·.whole)

def decomposed : Nat → Nat → List Nat
  | 0, code => [code]
  | fuel + 1, code =>
      match Syllable.decompose? code, compositionTable.find? (·.whole == code) with
      | some parts, _ => parts
      | none, some entry => decomposed fuel entry.first ++ [entry.second]
      | none, none => [code]

/-- Puts a mark behind the marks before it, as far as they are of a higher class. The list is reversed. -/
def insertMark (code : Nat) : List Nat → List Nat
  | [] => [code]
  | last :: others =>
      if combiningClass code ≠ 0 && combiningClass last > combiningClass code then last :: insertMark code others
      else code :: last :: others

def ordered (codes : List Nat) : List Nat :=
  (codes.foldl (fun done code => insertMark code done) []).reverse

structure Composing where
  done : List Nat := []
  starter : Option Nat := none
  marks : List Nat := []

def Composing.add (state : Composing) (code : Nat) : Composing :=
  let isBlocked := state.marks.head?.any fun last => combiningClass last ≥ combiningClass code
  match state.starter.bind fun starter => if isBlocked then none else composed? starter code with
  | some whole => { state with starter := some whole }
  | none =>
      if combiningClass code == 0 then ⟨state.marks ++ state.starter.toList ++ state.done, some code, []⟩
      else { state with marks := code :: state.marks }

def Composing.codes (state : Composing) : List Nat :=
  (state.marks ++ state.starter.toList ++ state.done).reverse

def normalized (codes : List Nat) : List Nat :=
  ((ordered (codes.flatMap (decomposed 8))).foldl Composing.add {}).codes

end YamlDialects.Text

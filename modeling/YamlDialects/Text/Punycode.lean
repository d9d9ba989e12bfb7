set_option autoImplicit false

namespace YamlDialects.Text.Punycode

def digitChar (digit : Nat) : Char :=
  if digit < 26 then Char.ofNat (97 + digit) else Char.ofNat (22 + digit)

def digitValue? (c : Char) : Option Nat :=
  if c.isDigit then some (c.toNat - 22)
  else if c.isLower then some (c.toNat - 97)
  else if c.isUpper then some (c.toNat - 65)
  else none

def threshold (bias place : Nat) : Nat :=
  if place ≤ bias then 1 else if place ≥ bias + 26 then 26 else place - bias

def biasFrom : Nat → Nat → Nat → Nat
  | 0, delta, steps => 36 * steps + 36 * delta / (delta + 38)
  | fuel + 1, delta, steps =>
      if delta > 455 then biasFrom fuel (delta / 35) (steps + 1) else 36 * steps + 36 * delta / (delta + 38)

def adapted (delta count : Nat) (isFirst : Bool) : Nat :=
  let damped := if isFirst then delta / 700 else delta / 2
  biasFrom 16 (damped + damped / count) 0

def encodeNumber (bias : Nat) : Nat → Nat → Nat → List Char
  | 0, _, _ => []
  | fuel + 1, place, number =>
      let limit := threshold bias place
      if number < limit then [digitChar number]
      else
        digitChar (limit + (number - limit) % (36 - limit)) ::
          encodeNumber bias fuel (place + 36) ((number - limit) / (36 - limit))

structure Encoder where
  output : List Char
  delta : Nat := 0
  bias : Nat := 72
  count : Nat
  isFirst : Bool := true

def Encoder.pass (code : Nat) (encoder : Encoder) (c : Char) : Encoder :=
  if c.toNat < code then { encoder with delta := encoder.delta + 1 }
  else if c.toNat == code then
    { output := encoder.output ++ encodeNumber encoder.bias 64 36 encoder.delta
      delta := 0
      bias := adapted encoder.delta (encoder.count + 1) encoder.isFirst
      count := encoder.count + 1
      isFirst := false }
  else encoder

def encodeFrom (chars : List Char) : List Nat → Nat → Encoder → Encoder
  | [], _, encoder => encoder
  | code :: rest, next, encoder =>
      let start := { encoder with delta := encoder.delta + (code - next) * (encoder.count + 1) }
      let passed := chars.foldl (Encoder.pass code) start
      encodeFrom chars rest (code + 1) { passed with delta := passed.delta + 1 }

def encode (chars : List Char) : List Char :=
  let basic := chars.filter (·.toNat < 0x80)
  let others := ((chars.map Char.toNat).filter (· ≥ 0x80)).mergeSort.eraseDups
  let start := if basic.isEmpty then [] else basic ++ [ '-']
  (encodeFrom chars others 0x80 { output := start, count := basic.length }).output

def decodeNumber? (bias : Nat) : Nat → Nat → Nat → List Char → Option (Nat × List Char)
  | _, _, _, [] => none
  | place, weight, total, c :: rest => do
      let digit ← digitValue? c
      let limit := threshold bias place
      let total := total + digit * weight
      if digit < limit then return (total, rest)
      else decodeNumber? bias (place + 36) (weight * (36 - limit)) total rest

def decodeFrom? : Nat → Nat → Nat → Nat → List Char → List Char → Option (List Char)
  | 0, _, _, _, _, _ => none
  | fuel + 1, code, place, bias, found, rest =>
      if rest.isEmpty then some found
      else do
        let (number, rest) ← decodeNumber? bias 36 1 place rest
        let count := found.length + 1
        let code := code + number / count
        if !code.isValidChar then failure
        let position := number % count
        decodeFrom? fuel code (position + 1) (adapted (number - place) count (place == 0))
          (found.take position ++ [Char.ofNat code] ++ found.drop position) rest

def decode? (chars : List Char) : Option (List Char) :=
  let tail := (chars.reverse.takeWhile (· != '-')).reverse
  let basic := (chars.take (chars.length - tail.length)).dropLast
  if chars.any (·.toNat ≥ 0x80) then none else decodeFrom? (tail.length + 1) 0x80 0 72 basic tail

end YamlDialects.Text.Punycode

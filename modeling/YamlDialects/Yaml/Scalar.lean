import YamlDialects.Width
import YamlDialects.Yaml.Chars

set_option autoImplicit false

namespace YamlDialects.Yaml

inductive Scalar where
  | null
  | bool (value : Bool)
  | int (value : Int)
  | float (value : Float)
  | text (value : String)

namespace Scalar

def digitValue? (radix : Nat) (c : Char) : Option Nat :=
  if isHex c && hexDigit c < radix then some (hexDigit c) else none

def number? (radix : Nat) (digits : List Char) : Option Nat :=
  if digits.isEmpty then none
  else digits.foldlM (fun total c => (digitValue? radix c).map (radix * total + ·)) 0

def marked? : List Char → Option Nat
  | '0' :: 'x' :: digits => number? 16 digits
  | '0' :: 'o' :: digits => number? 8 digits
  | '0' :: 'b' :: digits => number? 2 digits
  | _ => none

def isPadded (digits : List Char) : Bool :=
  digits.length > 1 && digits.head? == some '0' && digits.tail.all Char.isDigit

def magnitude? (chars : List Char) : Option Nat :=
  (marked? chars).orElse fun _ => if isPadded chars then none else number? 10 chars

def integer? : List Char → Option Int
  | '-' :: rest => (magnitude? rest).map fun value => -(value : Int)
  | '+' :: rest => (magnitude? rest).map Int.ofNat
  | rest => (magnitude? rest).map Int.ofNat

structure Decimal where
  negative : Bool
  mantissa : Nat
  exponent : Int

def decimalValue (digits : List Char) : Nat :=
  digits.foldl (fun total c => 10 * total + (c.toNat - 48)) 0

def exponent? : List Char → Option Int
  | [] => some 0
  | mark :: rest =>
      if mark == 'e' || mark == 'E' then
        let (negative, digits) := match rest with
          | '-' :: digits => (true, digits)
          | '+' :: digits => (false, digits)
          | digits => (false, digits)
        if digits.isEmpty || !digits.all Char.isDigit then none
        else some (if negative then -(decimalValue digits : Int) else decimalValue digits)
      else none

def unsignedDecimal? (negative : Bool) (chars : List Char) : Option Decimal :=
  let whole := chars.takeWhile Char.isDigit
  let (fraction, rest) := match chars.dropWhile Char.isDigit with
    | '.' :: after => (after.takeWhile Char.isDigit, after.dropWhile Char.isDigit)
    | after => ([], after)
  if whole.isEmpty && fraction.isEmpty then none
  else (exponent? rest).map fun exponent =>
    ⟨negative, decimalValue (whole ++ fraction), exponent - fraction.length⟩

def decimal? : List Char → Option Decimal
  | '-' :: rest => unsignedDecimal? true rest
  | '+' :: rest => unsignedDecimal? false rest
  | rest => unsignedDecimal? false rest

/-- The nearest double. Powers of ten beyond the range of doubles are cut before they are computed. -/
def Decimal.toFloat (decimal : Decimal) : Float :=
  let digits := (Nat.toDigits 10 decimal.mantissa).length
  let size :=
    if decimal.mantissa = 0 then 0.0
    else if decimal.exponent + digits > 400 then 1.0 / 0.0
    else if decimal.exponent + digits < -400 then 0.0
    else if decimal.exponent < 0 then Float.ofScientific decimal.mantissa true decimal.exponent.natAbs
    else Float.ofScientific decimal.mantissa false decimal.exponent.natAbs
  if decimal.negative then -size else size

def special? (text : String) : Option Float :=
  if [".inf", ".Inf", ".INF", "+.inf", "+.Inf", "+.INF"].contains text then some (1.0 / 0.0)
  else if ["-.inf", "-.Inf", "-.INF"].contains text then some (-1.0 / 0.0)
  else if [".nan", ".NaN", ".NAN"].contains text then some (Float.ofBits 0x7ff8000000000000)
  else none

def float? (text : String) : Option Float :=
  (special? text).orElse fun _ =>
    match decimal? text.toList with
    | some decimal => if decimal.toFloat.isFinite then some decimal.toFloat else none
    | none => none

def bool? (text : String) : Option Bool :=
  if ["true", "True", "TRUE"].contains text then some true
  else if ["false", "False", "FALSE"].contains text then some false
  else none

def isNull (text : String) : Bool :=
  ["", "~", "null", "Null", "NULL"].contains text

/-- Integers that do not fit 64 bits but fit 128 are refused. -/
def isRefused (value : Int) : Bool :=
  !Width.fits 64 value && Width.fits 128 value

def isPaddedText (text : String) : Bool :=
  match text.toList with
  | '-' :: rest => isPadded rest
  | '+' :: rest => isPadded rest
  | rest => isPadded rest

def floatOrText (text : String) : Scalar :=
  if isPaddedText text then .text text
  else
    match float? text with
    | some value => .float value
    | none => .text text

def ofPlain? (text : String) : Option Scalar :=
  if isNull text then some .null
  else
    match bool? text, integer? text.toList with
    | some value, _ => some (.bool value)
    | none, some value =>
        if Width.fits 64 value then some (.int value)
        else if isRefused value then none
        else some (floatOrText text)
    | none, none => some (floatOrText text)

end Scalar
end YamlDialects.Yaml

import Circuitry.Number.Numeral

/-!
JSON numbers.

A number without fraction and exponent that fits 64 bits is an integer; every other number is a
floating-point number.  Its value is approximate: the digits are taken into a significand of 64
bits as far as they fit, the significand is rounded, and the result is scaled by a power of ten
with one more rounding.  A number that becomes infinite is refused.
-/

namespace Circuitry.Json

inductive Number
  | integer (value : Int64)
  | float (value : Binary64)
  deriving DecidableEq, Repr

/-- The parts of the text of a number. -/
structure NumberText where
  negative : Bool
  whole : List Char
  fraction : Option (List Char)
  /-- The sign of the exponent, true for minus, and its digits. -/
  exponent : Option (Bool × List Char)
  deriving DecidableEq, Repr

/-! ## The text of a number -/

/-- Splits off digits; there has to be one. -/
def splitDigits (chars : List Char) : Option (List Char × List Char) :=
  let digits := chars.takeWhile Char.isDigit
  if digits.isEmpty then none else some (digits, chars.dropWhile Char.isDigit)

/-- Splits off a fraction, if there is a point. -/
def splitFraction : List Char → Option (Option (List Char) × List Char)
  | '.' :: rest => (splitDigits rest).map fun split => (some split.1, split.2)
  | chars => some (none, chars)

/-- Splits off an exponent, if there is a mark. -/
def splitExponent : List Char → Option (Option (Bool × List Char) × List Char)
  | mark :: rest =>
    if mark = 'e' ∨ mark = 'E' then
      let (negative, digits) := Numeral.splitSign rest
      (splitDigits digits).map fun split => (some (negative, split.1), split.2)
    else some (none, mark :: rest)
  | [] => some (none, [])

/-- Splits off the text of a number; a zero is not followed by further digits of the whole part. -/
def splitNumber (chars : List Char) : Option (NumberText × List Char) := do
  let (negative, body) :=
    match chars with
    | '-' :: rest => (true, rest)
    | _ => (false, chars)
  let (whole, afterWhole) ← splitDigits body
  if whole.head? = some '0' ∧ whole.length ≠ 1 then none
  else
    let (fraction, afterFraction) ← splitFraction afterWhole
    let (exponent, rest) ← splitExponent afterFraction
    return (⟨negative, whole, fraction, exponent⟩, rest)

/-! ## The value of a number -/

/-- Takes digits into a significand while it stays below `2 ^ 64`; gives the significand and the
number of digits taken. -/
def absorb : Nat → List Char → Nat × Nat
  | significand, [] => (significand, 0)
  | significand, digit :: rest =>
    let next := significand * 10 + Numeral.digitsValue [digit]
    if next < Nat.pow 2 64 then
      let (final, taken) := absorb next rest
      (final, taken + 1)
    else (significand, 0)

/-- Divides a number by `10 ^ exponent`, at most `10 ^ 308` at a time, until it is zero. -/
def scaleDown : Nat → Binary64 → Nat → Binary64
  | 0, number, _ => number
  | fuel + 1, number, exponent =>
    if exponent ≤ 308 then number.divide (.powerOfTen exponent)
    else if number.isZero then number
    else scaleDown fuel (number.divide (.powerOfTen 308)) (exponent - 308)

/-- Scales a number by a power of ten, with one rounding for each step; none when it becomes
infinite. -/
def scale (number : Binary64) (exponent : Int) : Option Binary64 :=
  if exponent < 0 then some (scaleDown (exponent.natAbs / 308 + 1) number exponent.natAbs)
  else if number.isZero then some number
  else if 308 < exponent then none
  else
    let scaled := number.multiply (.powerOfTen exponent.toNat)
    if scaled.isInfinite then none else some scaled

def signed (negative : Bool) (number : Binary64) : Binary64 :=
  if negative then number.negate else number

/-- The value of a whole number: an integer if it fits, and minus zero is a floating-point
number. -/
def wholeValue (negative : Bool) (significand : Nat) : Number :=
  if negative ∧ significand = 0 then .float (.zero true)
  else
    match Numeral.fitInt64 (if negative then -(significand : Int) else significand) with
    | some value => .integer value
    | none => .float (.ofRatio negative significand 1)

/-- The greatest exponent that is taken as it stands. -/
def exponentLimit : Nat := Nat.pow 2 31 - 1

def NumberText.value (text : NumberText) : Option Number :=
  let (wholePart, wholeTaken) := absorb 0 text.whole
  let dropped := text.whole.length - wholeTaken
  match text.fraction, text.exponent with
  | none, none =>
    if dropped = 0 then some (wholeValue text.negative wholePart)
    else
      (scale (.ofRatio false wholePart 1) dropped).map fun scaled =>
        .float (signed text.negative scaled)
  | fraction, exponent =>
    let (significand, taken) := absorb wholePart (fraction.getD [])
    let shift : Int := (dropped : Int) - taken
    let (negativeExponent, digits) := exponent.getD (false, [])
    let size := Numeral.digitsValue digits
    if exponentLimit < size then
      if significand ≠ 0 ∧ !negativeExponent then none
      else some (.float (.zero text.negative))
    else
      let power := if negativeExponent then shift - size else shift + size
      (scale (.ofRatio false significand 1) power).map fun scaled =>
        .float (signed text.negative scaled)

/-- Reads a number; gives its value and what follows it. -/
def readNumber (chars : List Char) : Option (Number × List Char) := do
  let (text, rest) ← splitNumber chars
  let value ← text.value
  return (value, rest)

end Circuitry.Json

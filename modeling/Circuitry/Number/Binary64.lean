/-!
Binary floating-point numbers of 64 bits, as words with a sign bit, eleven exponent bits and
fifty-two fraction bits.

Everything is exact arithmetic on natural numbers: a finite magnitude is counted in units of
`2 ^ -1074`, the smallest positive number, and a quotient is rounded once, to the nearest word
and from the middle to the even one.
-/

namespace Circuitry

/-- A floating-point number, given by its 64 bits. -/
structure Binary64 where
  bits : UInt64
  deriving DecidableEq, Repr

namespace Binary64

/-- The sign bit. -/
def isNegative (number : Binary64) : Bool :=
  Nat.pow 2 63 ≤ number.bits.toNat

/-- The word without its sign bit; words of one sign are ordered like these. -/
def magnitude (number : Binary64) : Nat :=
  number.bits.toNat % Nat.pow 2 63

/-- The eleven exponent bits. -/
def exponentField (number : Binary64) : Nat :=
  number.magnitude / Nat.pow 2 52

/-- The fraction bits, with the hidden bit of a normal number. -/
def significand (number : Binary64) : Nat :=
  if number.exponentField = 0 then number.magnitude
  else number.magnitude % Nat.pow 2 52 + Nat.pow 2 52

/-- The magnitude of both infinities. -/
def infiniteMagnitude : Nat := 2047 * Nat.pow 2 52

/-- Whether the word stands for no number. -/
def isNaN (number : Binary64) : Bool :=
  infiniteMagnitude < number.magnitude

/-- Whether the word is one of the two infinities. -/
def isInfinite (number : Binary64) : Bool :=
  number.magnitude == infiniteMagnitude

/-- Whether the word is one of the two zeros. -/
def isZero (number : Binary64) : Bool :=
  number.magnitude == 0

/-- The power of two, in units, that the last bit of the significand counts. -/
def unitExponent (number : Binary64) : Nat :=
  number.exponentField - 1

/-- The absolute value of a finite number in units of `2 ^ -1074`. -/
def units (number : Binary64) : Nat :=
  number.significand * Nat.pow 2 number.unitExponent

def unitsPerOne : Nat := Nat.pow 2 1074

/-- The word with a given sign and magnitude. -/
def ofMagnitude (negative : Bool) (magnitude : Nat) : Binary64 :=
  ⟨UInt64.ofNat (magnitude + if negative then Nat.pow 2 63 else 0)⟩

/-- Zero with a sign. -/
def zero (negative : Bool) : Binary64 := ofMagnitude negative 0

/-- Infinity with a sign. -/
def infinity (negative : Bool) : Binary64 := ofMagnitude negative infiniteMagnitude

/-- A word that stands for no number. -/
def nan : Binary64 := ofMagnitude false (infiniteMagnitude + Nat.pow 2 51)

/-- The number with the sign changed. -/
def negate (number : Binary64) : Binary64 :=
  ofMagnitude (!number.isNegative) number.magnitude

/-! ## Rounding -/

/-- The quotient rounded to the nearest natural number, from the middle to the even one. -/
def roundHalfEven (dividend divisor : Nat) : Nat :=
  let quotient := dividend / divisor
  let remainder := dividend % divisor
  if 2 * remainder < divisor then quotient
  else if divisor < 2 * remainder then quotient + 1
  else quotient + quotient % 2

/-- The quotient of two natural numbers, rounded to the nearest word; a quotient beyond the
largest finite number becomes infinite. -/
def ofRatio (negative : Bool) (dividend divisor : Nat) : Binary64 :=
  let scaled := dividend * unitsPerOne
  let shift := (scaled / divisor).log2 - 52
  let rounded := roundHalfEven scaled (divisor * Nat.pow 2 shift)
  ofMagnitude negative (min (shift * Nat.pow 2 52 + rounded) infiniteMagnitude)

/-- The nearest word to an integer. -/
def ofInt (number : Int) : Binary64 :=
  ofRatio (number < 0) number.natAbs 1

/-- The nearest word to a power of ten. -/
def powerOfTen (exponent : Nat) : Binary64 :=
  ofRatio false (Nat.pow 10 exponent) 1

/-- The product of two finite numbers. -/
def multiply (left right : Binary64) : Binary64 :=
  ofRatio (left.isNegative != right.isNegative) (left.units * right.units)
    (unitsPerOne * unitsPerOne)

/-- The quotient of a finite number by a finite number other than zero. -/
def divide (left right : Binary64) : Binary64 :=
  ofRatio (left.isNegative != right.isNegative) left.units right.units

/-! ## Comparison -/

/-- The place of a word in the order of numbers; the two zeros share one. -/
def place (number : Binary64) : Int :=
  if number.isNegative then -(number.magnitude : Int) else number.magnitude

/-- Equality of numbers: the zeros are equal, and what is no number equals nothing. -/
def equal (left right : Binary64) : Bool :=
  !left.isNaN && !right.isNaN && left.place == right.place

/-- The strict order of numbers, false when either side is no number. -/
def less (left right : Binary64) : Bool :=
  !left.isNaN && !right.isNaN && left.place < right.place

/-- The order of numbers, false when either side is no number. -/
def lessEqual (left right : Binary64) : Bool :=
  !left.isNaN && !right.isNaN && left.place ≤ right.place

end Binary64

end Circuitry

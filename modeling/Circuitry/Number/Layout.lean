import Circuitry.Number.Decimal

/-!
The layouts in which floating-point numbers are written.

A layout is one record of decisions: which exponents are written positionally, what follows a
whole number, how an exponent is signed, which way ties go, and the texts of what is not finite.
-/

namespace Circuitry

/-- The decisions about the written form of floating-point numbers. -/
structure Layout where
  /-- Whether a number with this exponent of its first digit is written positionally. -/
  isPositional : Int → Bool
  /-- What follows a whole number that is written positionally. -/
  afterWhole : String
  /-- The sign of a positive exponent. -/
  positiveExponent : String
  tie : Tie
  infinity : String
  negativeInfinity : String
  nan : String

namespace Layout

/-- The digits with a point after the digit of exponent zero. -/
def positional (layout : Layout) (number : Decimal) : String :=
  let digits := number.digitChars
  if 0 ≤ number.exponent then
    String.ofList (digits ++ List.replicate number.exponent.toNat '0') ++ layout.afterWhole
  else
    let places := (-number.exponent).toNat
    let padded := List.replicate (places + 1 - digits.length) '0' ++ digits
    let split := padded.length - places
    String.ofList (padded.take split ++ '.' :: padded.drop split)

/-- The digits with a point after the first one, and the exponent of the first digit. -/
def scientific (layout : Layout) (number : Decimal) : String :=
  let exponent := number.leadingExponent
  let mantissa :=
    match number.digitChars with
    | [] => []
    | [digit] => [digit]
    | digit :: rest => digit :: '.' :: rest
  String.ofList mantissa ++ "e" ++ (if 0 ≤ exponent then layout.positiveExponent else "-")
    ++ toString exponent.natAbs

/-- A floating-point number in a layout. -/
def write (layout : Layout) (number : Binary64) : String :=
  if number.isNaN then layout.nan
  else if number.isInfinite then
    if number.isNegative then layout.negativeInfinity else layout.infinity
  else
    let decimal := number.shortest layout.tie
    (if number.isNegative then "-" else "") ++
      if number.isZero || layout.isPositional decimal.leadingExponent then
        layout.positional decimal
      else layout.scientific decimal

/-- The layout of numbers in messages: always positional, and nothing follows a whole number. -/
def plain : Layout where
  isPositional _ := true
  afterWhole := ""
  positiveExponent := ""
  tie := .up
  infinity := "inf"
  negativeInfinity := "-inf"
  nan := "NaN"

/-- The layout of numbers in outlines of nodes and flags: positional from `1e-4` below `1e16`, and
a whole number shows a fraction of zero. -/
def outline : Layout where
  isPositional exponent := -4 ≤ exponent && exponent < 16
  afterWhole := ".0"
  positiveExponent := ""
  tie := .up
  infinity := "inf"
  negativeInfinity := "-inf"
  nan := "NaN"

/-- The layout of numbers in saved flags: positional from `1e-5` below `1e16`, an exponent always
has a sign, and what is not finite is null. -/
def saved : Layout where
  isPositional exponent := -5 ≤ exponent && exponent < 16
  afterWhole := ".0"
  positiveExponent := "+"
  tie := .even
  infinity := "null"
  negativeInfinity := "null"
  nan := "null"

end Layout

end Circuitry

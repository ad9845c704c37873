import Circuitry.Number.Binary64

/-!
Decimal numbers, and the shortest decimal that reads back as a given word.

For one digit, two digits, and so on, the two neighbours of the value on the decimal grid with
that many digits are tried; the first grid with a neighbour that rounds to the word wins, and of
two such neighbours the nearer one.  Seventeen digits always suffice.
-/

namespace Circuitry

/-- The number `digits * 10 ^ exponent`. -/
structure Decimal where
  digits : Nat
  exponent : Int
  deriving DecidableEq, Repr

/-- Which neighbour is taken when a value lies in the middle of two. -/
inductive Tie
  | up
  | even
  deriving DecidableEq, Repr

namespace Decimal

/-- The decimal digits from the most significant one. -/
def digitChars (number : Decimal) : List Char :=
  Nat.toDigits 10 number.digits

/-- The exponent of the first digit. -/
def leadingExponent (number : Decimal) : Int :=
  number.exponent + (number.digitChars.length - 1 : Nat)

/-- The same number without zeros at the end of its digits. -/
def normalize : Nat → Decimal → Decimal
  | 0, number => number
  | fuel + 1, number =>
    if number.digits % 10 = 0 ∧ number.digits ≠ 0 then
      normalize fuel ⟨number.digits / 10, number.exponent + 1⟩
    else number

/-- The nearest word to a decimal number with a sign.  Numbers far outside the range of finite
words are settled by the exponent of their first digit. -/
def toBinary64 (negative : Bool) (number : Decimal) : Binary64 :=
  if number.digits = 0 then .zero negative
  else if 310 < number.leadingExponent then .infinity negative
  else if number.leadingExponent < -330 then .zero negative
  else if 0 ≤ number.exponent then
    .ofRatio negative (number.digits * Nat.pow 10 number.exponent.toNat) 1
  else .ofRatio negative number.digits (Nat.pow 10 (-number.exponent).toNat)

end Decimal

/-! ## The shortest decimal -/

/-- The reals that round to one word, in quarters of a unit. -/
structure RoundingInterval where
  low : Nat
  high : Nat
  closed : Bool
  deriving Repr

namespace Binary64

/-- The reals that round to a finite number: half a step to each side, but only a quarter of one
below a power of two, and with the ends when the significand is even. -/
def interval (number : Binary64) : RoundingInterval where
  low :=
    let step := Nat.pow 2 number.unitExponent
    let narrow := number.significand = Nat.pow 2 52 ∧ 1 < number.exponentField
    4 * number.units - if narrow then step else 2 * step
  high := 4 * number.units + 2 * Nat.pow 2 number.unitExponent
  closed := number.significand % 2 = 0

/-- Whether `10 ^ exponent` is at most a number of units. -/
def powerAtMost (exponent : Int) (units : Nat) : Bool :=
  if 0 ≤ exponent then Nat.pow 10 exponent.toNat * unitsPerOne ≤ units
  else unitsPerOne ≤ units * Nat.pow 10 (-exponent).toNat

/-- Raises an exponent, up to `fuel` times, while the next power of ten is at most the units. -/
def raiseExponent : Nat → Int → Nat → Int
  | 0, exponent, _ => exponent
  | fuel + 1, exponent, units =>
    if powerAtMost (exponent + 1) units then raiseExponent fuel (exponent + 1) units else exponent

/-- The exponent of the first decimal digit of a positive number of units.  The estimate from the
binary logarithm is at most three too small. -/
def decimalExponent (units : Nat) : Int :=
  raiseExponent 4 (((units.log2 : Int) - 1074) * 30103 / 100000 - 2) units

end Binary64

namespace RoundingInterval

/-- Whether the point `point / divisor`, counted in units, lies in the interval. -/
def holds (range : RoundingInterval) (point divisor : Nat) : Bool :=
  let low := range.low * divisor
  let high := range.high * divisor
  if range.closed then low ≤ 4 * point && 4 * point ≤ high
  else low < 4 * point && 4 * point < high

end RoundingInterval

namespace Binary64

/-- The neighbour of a positive number on the grid of multiples of `10 ^ exponent` that rounds to
it, if there is one; of two the nearer, and from the middle the one that the tie rule names. -/
def onGrid (tie : Tie) (number : Binary64) (exponent : Int) : Option Decimal :=
  let up := if 0 ≤ exponent then Nat.pow 10 exponent.toNat * unitsPerOne else unitsPerOne
  let down := if 0 ≤ exponent then 1 else Nat.pow 10 (-exponent).toNat
  let below := number.units * down / up
  let rest := number.units * down % up
  let range := number.interval
  let lower := range.holds (below * up) down
  let upper := range.holds ((below + 1) * up) down
  let takeUpper :=
    if 2 * rest < up then false
    else if up < 2 * rest then true
    else match tie with
      | .up => true
      | .even => below % 2 = 1
  if lower && upper then some ⟨if takeUpper then below + 1 else below, exponent⟩
  else if lower then some ⟨below, exponent⟩
  else if upper then some ⟨below + 1, exponent⟩
  else none

/-- The first hit on the grids with `count` digits and more, at most `fuel` of them. -/
def firstOnGrid (tie : Tie) (number : Binary64) (leading : Int) : Nat → Nat → Decimal
  | 0, _ => ⟨number.units, -1074⟩
  | fuel + 1, count =>
    match onGrid tie number (leading - count + 1) with
    | some found => found.normalize 20
    | none => firstOnGrid tie number leading fuel (count + 1)

/-- The shortest decimal that reads back as the absolute value of a finite number. -/
def shortest (tie : Tie) (number : Binary64) : Decimal :=
  if number.isZero then ⟨0, 0⟩
  else firstOnGrid tie number (decimalExponent number.units) 17 1

end Binary64

end Circuitry

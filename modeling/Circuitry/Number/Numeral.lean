import Circuitry.Number.Decimal

/-!
Numerals: the texts that read as an integer or as a floating-point number.

A numeral may start with one sign.  An integer is then one or more digits.  A floating-point
number is digits with at most one point and at least one digit, then possibly an exponent; or it
is one of the names of infinity and of no number, in any ASCII case.
-/

namespace Circuitry.Numeral

/-- The sign at the front of a numeral, true for minus, and the rest. -/
def splitSign : List Char → Bool × List Char
  | '-' :: rest => (true, rest)
  | '+' :: rest => (false, rest)
  | chars => (false, chars)

/-- The number that decimal digits denote. -/
def digitsValue (digits : List Char) : Nat :=
  Nat.ofDigitChars 10 digits 0

/-- The digits of an integer, with a minus sign in front of a negative one. -/
def ofInt (number : Int) : List Char :=
  if number < 0 then '-' :: Nat.toDigits 10 number.natAbs else Nat.toDigits 10 number.natAbs

/-- Reads an integer. -/
def integer? (chars : List Char) : Option Int :=
  let (negative, digits) := splitSign chars
  if digits.isEmpty || !digits.all Char.isDigit then none
  else if negative then some (-(digitsValue digits : Int))
  else some (digitsValue digits)

/-- The integer as a word of 64 bits, when it fits. -/
def fitInt64 (number : Int) : Option Int64 :=
  if Int64.minValue.toInt ≤ number ∧ number ≤ Int64.maxValue.toInt then some (Int64.ofInt number)
  else none

/-- Reads an integer of 64 bits. -/
def int64? (chars : List Char) : Option Int64 :=
  (integer? chars).bind fitInt64

/-- Reads what may follow the digits of a floating-point number: nothing, or an exponent. -/
def exponent? : List Char → Option Int
  | [] => some 0
  | mark :: rest =>
    if mark = 'e' ∨ mark = 'E' then integer? rest else none

/-- Reads an unsigned floating-point number written with digits. -/
def decimal? (chars : List Char) : Option Decimal :=
  let whole := chars.takeWhile Char.isDigit
  let afterWhole := chars.dropWhile Char.isDigit
  let (fraction, rest) :=
    match afterWhole with
    | '.' :: more => (more.takeWhile Char.isDigit, more.dropWhile Char.isDigit)
    | _ => ([], afterWhole)
  if whole.isEmpty && fraction.isEmpty then none
  else (exponent? rest).map fun exponent =>
    ⟨digitsValue (whole ++ fraction), exponent - fraction.length⟩

/-- Reads a floating-point number. -/
def binary64? (chars : List Char) : Option Binary64 :=
  let (negative, body) := splitSign chars
  let word := body.map Char.toLower
  if word = ['i', 'n', 'f'] ∨ word = ['i', 'n', 'f', 'i', 'n', 'i', 't', 'y'] then
    some (.infinity negative)
  else if word = ['n', 'a', 'n'] then some (if negative then Binary64.nan.negate else .nan)
  else (decimal? body).map (Decimal.toBinary64 negative)

/-! ## Laws of integer numerals -/

theorem isDigit_of_mem_toDigits {number : Nat} {char : Char}
    (member : char ∈ Nat.toDigits 10 number) : char.isDigit = true :=
  Nat.isDigit_of_mem_toDigits (by decide) (by decide) member

theorem digitsValue_toDigits (number : Nat) :
    digitsValue (Nat.toDigits 10 number) = number :=
  Nat.ofDigitChars_toDigits (by decide) (by decide)

end Circuitry.Numeral

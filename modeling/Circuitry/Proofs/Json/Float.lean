import Circuitry.Proofs.Json.Number
import Circuitry.Proofs.Number.Shortest

/-!
# Texts that are read as floating-point numbers

A text with a fraction or an exponent is no integer.  After a short whole part some digit of the
fraction is taken into the significand, so the number is scaled down, and that never fails.  A text
with an exponent is scaled by the exponent of its last digit; the two roundings on the way do not
lead to infinity when the number that is meant has at most seventeen digits and is at most the
largest finite one.
-/

namespace Circuitry

open Binary64
open Numeral (Digits)

namespace Json

/-- The largest significand of at most seventeen digits whose product with a power of ten does not
exceed the largest finite number. -/
def largestSignificand (power : Nat) : Nat :=
  if power ≤ 291 then 10 ^ 17 else unitsAt largestMagnitude / (10 ^ power * unitsPerOne)

theorem finite_multiply_largestSignificand :
    ∀ steps < 18, ((ofRatio false (largestSignificand (291 + steps)) 1).multiply
      (powerOfTen (291 + steps))).IsFinite := by
  decide +kernel

/-- Up to `10 ^ 291` any seventeen digits are harmless, and beyond it the table has the largest
significand for each power; smaller factors have smaller products. -/
theorem finite_multiply {significand power : Nat} (few : significand ≤ 10 ^ 17)
    (small : power ≤ 308)
    (bounded : significand * 10 ^ power * unitsPerOne ≤ unitsAt largestMagnitude) :
    ((ofRatio false significand 1).multiply (powerOfTen power)).IsFinite := by
  obtain ⟨steps, inTable, powerOrder, significandOrder⟩ : ∃ steps < 18,
      power ≤ 291 + steps ∧ significand ≤ largestSignificand (291 + steps) := by
    by_cases harmless : power ≤ 291
    · exact ⟨0, by decide, harmless, few⟩
    · obtain ⟨steps, rfl⟩ := Nat.exists_eq_add_of_le (show 291 ≤ power by omega)
      refine ⟨steps, by omega, Nat.le_refl _, ?_⟩
      have positive : 0 < 10 ^ (291 + steps) * unitsPerOne :=
        Nat.mul_pos (pow_pos (by decide) _) unitsPerOne_pos
      rw [largestSignificand, if_neg harmless, Nat.le_div_iff_mul_le positive, ← mul_assoc]
      exact bounded
  have powers : Nat.pow 10 power ≤ Nat.pow 10 (291 + steps) :=
    Nat.pow_le_pow_right (by decide) powerOrder
  refine Nat.lt_of_le_of_lt ?_ (finite_multiply_largestSignificand steps inTable)
  exact multiply_mono (ofRatio_mono significandOrder false 1) (ofRatio_mono powers false 1)

/-- A significand of at most seventeen digits is scaled without overflow when its product with the
power of ten does not exceed the largest finite number, although both factors are rounded. -/
theorem exists_scale {significand : Nat} {power : Int} (nonzero : significand ≠ 0)
    (few : significand ≤ 10 ^ 17)
    (bounded : Decimal.value ⟨significand, power⟩ * unitsPerOne ≤ unitsAt largestMagnitude) :
    ∃ scaled, scale (ofRatio false significand 1) power = some scaled := by
  unfold scale
  split
  · exact ⟨_, rfl⟩
  · next nonnegative =>
      obtain ⟨power, rfl⟩ := Int.eq_ofNat_of_zero_le (Int.not_lt.mp nonnegative)
      split
      · exact ⟨_, rfl⟩
      · have leading := leadingExponent_le nonzero bounded
        have small : power ≤ 308 := by
          unfold Decimal.leadingExponent at leading
          dsimp only at leading
          omega
        rw [Decimal.value_ofNat, ← Nat.cast_mul, Nat.cast_le] at bounded
        have finite := finite_multiply few small bounded
        rw [if_neg (by omega), Int.toNat_natCast]
        dsimp only
        rw [if_neg (by rw [isInfinite, beq_iff_eq]; exact Nat.ne_of_lt finite)]
        exact ⟨_, rfl⟩

theorem scale_of_neg {power : Int} (negative : power < 0) (number : Binary64) :
    ∃ scaled, scale number power = some scaled := by
  rw [scale, if_pos negative]
  exact ⟨_, rfl⟩

theorem digit_le_nine {char : Char} (digit : char.isDigit = true) :
    char.toNat - '0'.toNat ≤ 9 := by
  have nine : '9'.toNat = '0'.toNat + 9 := rfl
  have atMost := (Char.isDigit_iff_toNat.mp digit).2
  omega

theorem ofDigitChars_lt {digits : List Char} (digit : ∀ char ∈ digits, char.isDigit = true)
    (initial : Nat) :
    Nat.ofDigitChars 10 digits initial < (initial + 1) * 10 ^ digits.length := by
  induction digits generalizing initial with
  | nil => simp
  | cons first rest inductionHypothesis =>
      have small := digit_le_nine (digit first List.mem_cons_self)
      rw [Nat.ofDigitChars_cons, List.length_cons, pow_succ', ← mul_assoc]
      refine Nat.lt_of_lt_of_le
        (inductionHypothesis (fun char member => digit char (List.mem_cons_of_mem _ member)) _) ?_
      exact Nat.mul_le_mul_right _ (by omega)

/-- At least one digit of the fraction still fits into the significand after a short whole part, so
the number is scaled down. -/
theorem exists_value_of_fraction {negative : Bool} {whole fraction : List Char}
    (wholeDigits : Digits whole) (short : whole.length ≤ 16) (fractionDigits : Digits fraction) :
    ∃ value, NumberText.value ⟨negative, whole, some fraction, none⟩ = some (.float value) := by
  have small : Nat.ofDigitChars 10 whole 0 < 10 ^ 16 := by
    have bound := ofDigitChars_lt wholeDigits.digit 0
    have power : 10 ^ whole.length ≤ 10 ^ 16 := pow_le_pow_right₀ (by decide) short
    omega
  have size : Nat.pow 2 64 = 18446744073709551616 := rfl
  have wholeTaken := absorb_of_fits whole 0 (by omega)
  obtain ⟨first, others, rfl, digit⟩ := fractionDigits.exists_cons
  have nextFits :
      Nat.ofDigitChars 10 whole 0 * 10 + Numeral.digitsValue [first] < Nat.pow 2 64 := by
    have atMost := digit_le_nine digit
    unfold Numeral.digitsValue
    rw [Nat.ofDigitChars_cons, Nat.ofDigitChars_nil]
    omega
  generalize restTaken : absorb (Nat.ofDigitChars 10 whole 0 * 10 + Numeral.digitsValue [first])
    others = rest
  obtain ⟨significand, taken⟩ := rest
  have fractionTaken : absorb (Nat.ofDigitChars 10 whole 0) (first :: others) =
      (significand, taken + 1) := by
    rw [absorb]
    simp only [if_pos nextFits, restTaken]
  have noExponent : ¬exponentLimit < Numeral.digitsValue [] := by decide
  have down : ((whole.length - whole.length : Nat) : Int) - (taken + 1 : Nat) +
      (Numeral.digitsValue [] : Nat) < 0 := by
    have none : Numeral.digitsValue [] = 0 := rfl
    omega
  obtain ⟨scaled, scaledIs⟩ := scale_of_neg down (ofRatio false significand 1)
  refine ⟨signed negative scaled, ?_⟩
  simp only [NumberText.value, wholeTaken, Option.getD_some, Option.getD_none, fractionTaken,
    if_neg noExponent, Bool.false_eq_true, if_false, scaledIs, Option.map_some]

/-- All digits of the significand fit, and the number is scaled by the exponent of its last digit;
an exponent too far down makes it zero. -/
theorem exists_value_of_exponent {negative : Bool} {first : Char} {rest : List Char}
    {fraction : Option (List Char)} {leading : Int} (fractionIs : fraction.getD [] = rest)
    (fits : Nat.ofDigitChars 10 (first :: rest) 0 < Nat.pow 2 64) (small : leading ≤ 308)
    (scales : ∃ scaled, scale (ofRatio false (Nat.ofDigitChars 10 (first :: rest) 0) 1)
      (leading - rest.length) = some scaled) :
    ∃ value, NumberText.value ⟨negative, [first], fraction,
      some (decide (leading < 0), Nat.toDigits 10 leading.natAbs)⟩ = some (.float value) := by
  obtain ⟨scaled, scaledIs⟩ := scales
  rw [Nat.ofDigitChars_cons] at fits scaledIs
  generalize headIs : 10 * 0 + (first.toNat - '0'.toNat) = head at fits scaledIs
  have headFits : Nat.ofDigitChars 10 [first] 0 < Nat.pow 2 64 := by
    rw [Nat.ofDigitChars_cons, Nat.ofDigitChars_nil, headIs]
    exact Nat.lt_of_le_of_lt (le_ofDigitChars rest head) fits
  have headTaken : absorb 0 [first] = (head, 1) := by
    rw [absorb_of_fits [first] 0 headFits, Nat.ofDigitChars_cons, Nat.ofDigitChars_nil, headIs]
    rfl
  have restTaken := absorb_of_fits rest head fits
  have size : Numeral.digitsValue (Nat.toDigits 10 leading.natAbs) = leading.natAbs :=
    Numeral.digitsValue_toDigits _
  have power : (if decide (leading < 0) = true
        then ((1 - 1 : Nat) : Int) - rest.length - leading.natAbs
        else ((1 - 1 : Nat) : Int) - rest.length + leading.natAbs) = leading - rest.length := by
    simp only [decide_eq_true_eq]
    split <;> omega
  by_cases far : exponentLimit < leading.natAbs
  · have limit : 308 ≤ exponentLimit := by decide
    have downwards : leading < 0 := by omega
    refine ⟨.zero negative, ?_⟩
    simp only [NumberText.value, headTaken, Option.getD_some, fractionIs, restTaken, size,
      if_pos far, downwards, decide_true, Bool.not_true, Bool.false_eq_true, and_false, if_false]
  · refine ⟨signed negative scaled, ?_⟩
    simp only [NumberText.value, headTaken, Option.getD_some, fractionIs, restTaken, size,
      if_neg far, List.length_singleton, power, scaledIs, Option.map_some]

end Json

end Circuitry

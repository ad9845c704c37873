import Circuitry.Number.Layout
import Circuitry.Proofs.Json.Float

/-!
# Saved numbers are read as floating-point numbers

A finite number is saved as a whole part and a fraction, or as a first digit, the other digits and
an exponent.  Both are well-formed texts of a number, and their values are floating-point numbers.
-/

namespace Circuitry

open Numeral (Digits)

namespace Decimal

/-- The whole part and the fraction of a decimal. -/
def positionalText (negative : Bool) (number : Decimal) : Json.NumberText :=
  let digits := number.digitChars
  if 0 ≤ number.exponent then
    ⟨negative, digits ++ List.replicate number.exponent.toNat '0', some ['0'], none⟩
  else
    let places := (-number.exponent).toNat
    let padded := List.replicate (places + 1 - digits.length) '0' ++ digits
    let split := padded.length - places
    ⟨negative, padded.take split, some (padded.drop split), none⟩

/-- The first digit of a decimal, its other digits if there are any, and the exponent of the first
digit. -/
def scientificText (negative : Bool) (number : Decimal) : Json.NumberText :=
  let rest := number.digitChars.drop 1
  ⟨negative, number.digitChars.take 1, if rest.isEmpty then none else some rest,
    some (decide (number.leadingExponent < 0), Nat.toDigits 10 number.leadingExponent.natAbs)⟩

variable {negative : Bool} {number : Decimal}

theorem digits_digitChars (number : Decimal) : Digits number.digitChars :=
  Numeral.digits_toDigits _

theorem written_positionalText :
    (positionalText negative number).written =
      (if negative then ['-'] else []) ++ (Layout.saved.positional number).toList := by
  unfold positionalText Layout.positional Json.NumberText.written
  dsimp only
  split
  · simp [Json.writeFraction, Json.writeExponent, Layout.saved]
  · simp [Json.writeFraction, Json.writeExponent]

theorem written_scientificText :
    (scientificText negative number).written =
      (if negative then ['-'] else []) ++ (Layout.saved.scientific number).toList := by
  have sign : (if 0 ≤ number.leadingExponent then "+" else "-").toList =
      [if decide (number.leadingExponent < 0) = true then '-' else '+'] := by
    by_cases nonnegative : 0 ≤ number.leadingExponent
    · simp [nonnegative]
    · simp [nonnegative, Int.not_le.mp nonnegative]
  obtain ⟨first, rest, parts, -⟩ := number.digits_digitChars.exists_cons
  unfold scientificText Layout.scientific Json.NumberText.written
  simp only [parts, Layout.saved, String.toList_append, sign, Nat.toString_eq_repr, Nat.toList_repr,
    Json.writeExponent]
  cases rest with
  | nil => simp [Json.writeFraction]
  | cons second others => simp [Json.writeFraction]

theorem digits_eq_zero (leading : number.digitChars.head? = some '0') : number.digits = 0 :=
  Decidable.byContradiction fun nonzero =>
    Numeral.head?_toDigits (Nat.pos_of_ne_zero nonzero) leading

theorem isDigit_of_mem_replicate {count : Nat} {char : Char}
    (member : char ∈ List.replicate count '0') : char.isDigit = true := by
  rw [List.eq_of_mem_replicate member]
  rfl

theorem isDigit_of_mem_padded {count : Nat} {char : Char}
    (member : char ∈ List.replicate count '0' ++ number.digitChars) : char.isDigit = true := by
  rcases List.mem_append.mp member with zero | digit
  · exact isDigit_of_mem_replicate zero
  · exact number.digits_digitChars.digit char digit

theorem wellFormed_whole {zeros : Nat} (plain : number.digits = 0 → zeros = 0) :
    Json.NumberText.WellFormed
      ⟨negative, number.digitChars ++ List.replicate zeros '0', some ['0'], none⟩ := by
  have digits := number.digits_digitChars
  refine ⟨⟨List.append_ne_nil_of_left_ne_nil digits.nonempty _, ?_⟩, ?_, ?_, by simp⟩
  · intro char member
    rcases List.mem_append.mp member with digit | zero
    · exact digits.digit char digit
    · exact isDigit_of_mem_replicate zero
  · intro leading
    rw [List.head?_append_of_ne_nil _ digits.nonempty] at leading
    have zero := digits_eq_zero leading
    rw [plain zero, digitChars, zero]
    rfl
  · rintro _ ⟨⟩
    exact ⟨List.cons_ne_nil _ _, fun char member => List.mem_singleton.mp member ▸ rfl⟩

/-- A number with `places` decimal places is padded with zeros until a digit stands before them. -/
theorem wellFormed_padded {places : Nat} (positive : 0 < places) (nonzero : number.digits ≠ 0)
    {padded : List Char}
    (padding : padded =
      List.replicate (places + 1 - number.digitChars.length) '0' ++ number.digitChars) :
    Json.NumberText.WellFormed ⟨negative, padded.take (padded.length - places),
      some (padded.drop (padded.length - places)), none⟩ := by
  have nonempty : 0 < number.digitChars.length :=
    List.length_pos_iff.mpr number.digits_digitChars.nonempty
  have length : padded.length =
      places + 1 - number.digitChars.length + number.digitChars.length := by
    rw [padding, List.length_append, List.length_replicate]
  have allDigits : ∀ char ∈ padded, char.isDigit = true := by
    intro char member
    rw [padding] at member
    exact isDigit_of_mem_padded member
  refine ⟨⟨?_, fun char member => allDigits char (List.mem_of_mem_take member)⟩, ?_, ?_, by simp⟩
  · refine List.ne_nil_of_length_pos ?_
    rw [List.length_take]
    omega
  · intro leading
    by_cases below : number.digitChars.length ≤ places
    · rw [List.length_take]
      omega
    · have unpadded : places + 1 - number.digitChars.length = 0 := by omega
      rw [unpadded, List.replicate_zero, List.nil_append] at padding
      subst padding
      rw [List.head?_take, if_neg (by omega)] at leading
      exact absurd (digits_eq_zero leading) nonzero
  · rintro _ ⟨⟩
    refine ⟨?_, fun char member => allDigits char (List.mem_of_mem_drop member)⟩
    refine List.ne_nil_of_length_pos ?_
    rw [List.length_drop]
    omega

theorem wellFormed_positionalText (plain : number.digits = 0 → number.exponent = 0) :
    (positionalText negative number).WellFormed := by
  unfold positionalText
  dsimp only
  split
  · refine wellFormed_whole fun zero => ?_
    rw [plain zero]
    rfl
  · next fractional =>
      refine wellFormed_padded (by omega) (fun zero => ?_) rfl
      rw [plain zero] at fractional
      contradiction

theorem length_whole_positionalText (small : number.leadingExponent < 16) :
    (positionalText negative number).whole.length ≤ 16 := by
  have nonempty : 0 < number.digitChars.length :=
    List.length_pos_iff.mpr number.digits_digitChars.nonempty
  unfold leadingExponent at small
  unfold positionalText
  dsimp only
  split
  · rw [List.length_append, List.length_replicate]
    omega
  · rw [List.length_take, List.length_append, List.length_replicate]
    omega

theorem wellFormed_scientificText : (scientificText negative number).WellFormed := by
  obtain ⟨first, rest, parts, digit⟩ := number.digits_digitChars.exists_cons
  have digits := number.digits_digitChars
  unfold scientificText
  rw [parts] at digits ⊢
  refine ⟨⟨List.cons_ne_nil _ _, by simpa using digit⟩, fun _ => rfl, ?_, ?_⟩
  · intro fraction fractionIs
    dsimp only at fractionIs
    split at fractionIs
    · contradiction
    · next some =>
        cases fractionIs
        refine ⟨by simpa using some, fun char member => ?_⟩
        exact digits.digit char (List.mem_cons_of_mem _ member)
  · rintro _ ⟨⟩
    exact Numeral.digits_toDigits _

theorem exists_value_positionalText (negative : Bool)
    (plain : number.digits = 0 → number.exponent = 0) (small : number.leadingExponent < 16) :
    ∃ value, (positionalText negative number).value = some (.float value) := by
  have wellFormed : (positionalText negative number).WellFormed := wellFormed_positionalText plain
  have short : (positionalText negative number).whole.length ≤ 16 :=
    length_whole_positionalText small
  obtain ⟨whole, fraction, parts⟩ : ∃ whole fraction,
      positionalText negative number = ⟨negative, whole, some fraction, none⟩ := by
    unfold positionalText
    dsimp only
    split <;> exact ⟨_, _, rfl⟩
  rw [parts] at wellFormed short ⊢
  exact Json.exists_value_of_fraction wellFormed.whole short (wellFormed.fraction fraction rfl)

open Binary64 in
theorem exists_value_scientificText (negative : Bool) (nonzero : number.digits ≠ 0)
    (few : number.digits ≤ 10 ^ 17)
    (bounded : number.value * unitsPerOne ≤ unitsAt largestMagnitude) :
    ∃ value, (scientificText negative number).value = some (.float value) := by
  obtain ⟨first, rest, parts, -⟩ := number.digits_digitChars.exists_cons
  have digits : Nat.ofDigitChars 10 (first :: rest) 0 = number.digits := by
    rw [← parts]
    exact Numeral.digitsValue_toDigits _
  have power : number.leadingExponent - rest.length = number.exponent := by
    rw [leadingExponent, parts, List.length_cons]
    omega
  have fits : number.digits < Nat.pow 2 64 := Nat.lt_of_le_of_lt few (by decide)
  have scales := Json.exists_scale nonzero few bounded
  rw [← digits] at fits scales
  rw [← power] at scales
  have fractionIs : (if rest.isEmpty then none else some rest).getD [] = rest := by
    cases rest <;> rfl
  unfold scientificText
  rw [parts]
  exact Json.exists_value_of_exponent fractionIs fits (leadingExponent_le nonzero bounded) scales

end Decimal

namespace Binary64

/-- The text that a finite number is saved as. -/
def savedText (number : Binary64) : Json.NumberText :=
  let decimal := number.shortest Layout.saved.tie
  if number.isZero || Layout.saved.isPositional decimal.leadingExponent then
    decimal.positionalText number.isNegative
  else decimal.scientificText number.isNegative

variable {number : Binary64}

theorem toList_write_saved (finite : number.IsFinite) :
    (Layout.saved.write number).toList = number.savedText.written := by
  have isNumber : number.isNaN = false := decide_eq_false (Nat.not_lt.mpr (Nat.le_of_lt finite))
  have bounded : number.isInfinite = false := beq_eq_false_iff_ne.mpr (Nat.ne_of_lt finite)
  have sign : (if number.isNegative then "-" else "").toList =
      if number.isNegative then ['-'] else [] := by
    split <;> rfl
  rw [Layout.write, isNumber, bounded, savedText]
  simp only [Bool.false_eq_true, if_false, String.toList_append, sign]
  by_cases positional : (number.isZero ||
      Layout.saved.isPositional (number.shortest Layout.saved.tie).leadingExponent) = true
  · rw [if_pos positional, if_pos positional, Decimal.written_positionalText]
  · rw [if_neg positional, if_neg positional, Decimal.written_scientificText]

theorem shortest_zero (tie : Tie) (zero : number.isZero = true) : number.shortest tie = ⟨0, 0⟩ :=
  if_pos zero

/-- The text that a finite number is saved as is well-formed, and its value is a floating-point
number. -/
theorem exists_value_savedText (finite : number.IsFinite) :
    number.savedText.WellFormed ∧ ∃ value, number.savedText.value = some (.float value) := by
  unfold savedText
  dsimp only
  by_cases zero : number.isZero = true
  · rw [if_pos (by rw [zero, Bool.true_or]), shortest_zero _ zero]
    have small : Decimal.leadingExponent ⟨0, 0⟩ < 16 := by decide
    exact ⟨Decimal.wellFormed_positionalText fun _ => rfl,
      Decimal.exists_value_positionalText _ (fun _ => rfl) small⟩
  · have nonzero : number.magnitude ≠ 0 := by
      simpa [isZero] using zero
    obtain ⟨found, shortestIs, digits, few, -⟩ :=
      exists_shortest Layout.saved.tie finite nonzero
    have bounded := shortest_le_largest finite nonzero
    change Decimal.value (number.shortest Layout.saved.tie) * _ ≤ _ at bounded
    have decimalDigits := Decimal.digits_normalize_ne_zero 20 digits
    have decimalFew := Nat.le_trans (Decimal.digits_normalize_le 20 found) few
    rw [← shortestIs] at decimalDigits decimalFew
    generalize number.shortest Layout.saved.tie = decimal at bounded decimalDigits decimalFew ⊢
    have plain : decimal.digits = 0 → decimal.exponent = 0 := fun none => absurd none decimalDigits
    by_cases positional :
        (number.isZero || Layout.saved.isPositional decimal.leadingExponent) = true
    · rw [if_pos positional]
      have small : decimal.leadingExponent < 16 := by
        simp only [Bool.eq_false_iff.mpr zero, Bool.false_or, Layout.saved, Bool.and_eq_true,
          decide_eq_true_eq] at positional
        exact positional.2
      exact ⟨Decimal.wellFormed_positionalText plain,
        Decimal.exists_value_positionalText _ plain small⟩
    · rw [if_neg positional]
      exact ⟨Decimal.wellFormed_scientificText,
        Decimal.exists_value_scientificText _ decimalDigits decimalFew bounded⟩

end Binary64

end Circuitry

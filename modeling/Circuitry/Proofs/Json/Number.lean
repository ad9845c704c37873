import Circuitry.Json.Number

/-!
# Written numbers are read back

A text that is put together from the parts of a number is split into these parts again, whatever
follows it that does not go on with a number.  The digits of an integer have no zero in front, so
the reader takes all of them, and they fit into its significand without loss.  An integer is
therefore read back as the same integer, up to both limits of the range.
-/

namespace Circuitry

namespace Numeral

theorem head?_toDigits {number : Nat} (positive : 0 < number) :
    (Nat.toDigits 10 number).head? ≠ some '0' := by
  induction number using Nat.strongRecOn with
  | ind number inductionHypothesis =>
      by_cases single : number < 10
      · rw [Nat.toDigits_of_lt_base single]
        have all : ∀ digit < 10, 0 < digit → [digit.digitChar].head? ≠ some '0' := by decide
        exact all number single positive
      · have many : 10 ≤ number := Nat.not_lt.mp single
        have earlier := inductionHypothesis (number / 10) (by omega) (by omega)
        rw [Nat.toDigits_of_base_le (by decide) many, List.head?_append, Option.or_of_isSome]
        · exact earlier
        · exact List.isSome_head?.mpr Nat.toDigits_ne_nil

/-- There are characters, and all of them are digits. -/
structure Digits (chars : List Char) : Prop where
  nonempty : chars ≠ []
  digit : ∀ char ∈ chars, char.isDigit = true

theorem Digits.exists_cons {chars : List Char} (digits : Digits chars) :
    ∃ first others, chars = first :: others ∧ first.isDigit = true := by
  obtain ⟨first, others, parts⟩ := List.exists_cons_of_ne_nil digits.nonempty
  exact ⟨first, others, parts, digits.digit first (parts ▸ List.mem_cons_self)⟩

theorem digits_toDigits (number : Nat) : Digits (Nat.toDigits 10 number) where
  nonempty := Nat.toDigits_ne_nil
  digit _ := isDigit_of_mem_toDigits

/-- The text of an integer begins with a minus sign or a digit. -/
theorem exists_ofInt (number : Int) :
    ∃ first others, ofInt number = first :: others ∧ (first = '-' ∨ first.isDigit = true) := by
  unfold ofInt
  split
  · exact ⟨'-', _, rfl, Or.inl rfl⟩
  · obtain ⟨first, others, parts, digit⟩ := (digits_toDigits number.natAbs).exists_cons
    exact ⟨first, others, parts, Or.inr digit⟩

theorem fitInt64_toInt (value : Int64) : fitInt64 value.toInt = some value := by
  rw [fitInt64, if_pos ⟨value.minValue_le_toInt, value.toInt_le⟩, value.ofInt_toInt]

end Numeral

namespace Json

open Numeral (Digits)

/-- What follows does not go on with a number. -/
def EndsNumber (rest : List Char) : Prop :=
  ∀ char ∈ rest.head?, char.isDigit = false ∧ char ≠ '.' ∧ char ≠ 'e' ∧ char ≠ 'E'

variable {rest : List Char}

/-- The parts consist of digits, and a zero begins a whole part only when it stands alone. -/
structure NumberText.WellFormed (text : NumberText) : Prop where
  whole : Digits text.whole
  alone : text.whole.head? = some '0' → text.whole.length = 1
  fraction : ∀ digits ∈ text.fraction, Digits digits
  exponent : ∀ split ∈ text.exponent, Digits split.2

def writeFraction : Option (List Char) → List Char
  | some digits => '.' :: digits
  | none => []

def writeExponent : Option (Bool × List Char) → List Char
  | some (negative, digits) => 'e' :: (if negative then '-' else '+') :: digits
  | none => []

/-- The text with these parts; an exponent always has a sign. -/
def NumberText.written (text : NumberText) : List Char :=
  (if text.negative then ['-'] else []) ++
    (text.whole ++ (writeFraction text.fraction ++ writeExponent text.exponent))

theorem splitDigits_append {digits : List Char} (digitsOnly : Digits digits)
    (ends : ∀ char ∈ rest.head?, char.isDigit = false) :
    splitDigits (digits ++ rest) = some (digits, rest) := by
  have noMore : rest.takeWhile Char.isDigit = [] ∧ rest.dropWhile Char.isDigit = rest := by
    cases rest with
    | nil => exact ⟨rfl, rfl⟩
    | cons first rest =>
        have other : first.isDigit = false := ends first rfl
        simp [other]
  unfold splitDigits
  rw [List.takeWhile_append_of_pos digitsOnly.digit, List.dropWhile_append_of_pos digitsOnly.digit,
    noMore.1, noMore.2, List.append_nil]
  simp [digitsOnly.nonempty]

theorem splitFraction_write {fraction : Option (List Char)}
    (digitsOnly : ∀ digits ∈ fraction, Digits digits)
    (ends : ∀ char ∈ rest.head?, char.isDigit = false ∧ char ≠ '.') :
    splitFraction (writeFraction fraction ++ rest) = some (fraction, rest) := by
  cases fraction with
  | some digits =>
      have taken := splitDigits_append (digitsOnly digits rfl) fun char first => (ends char first).1
      rw [writeFraction, List.cons_append, splitFraction, taken, Option.map_some]
  | none =>
      rw [writeFraction, List.nil_append]
      unfold splitFraction
      split
      · next more => exact absurd rfl (ends '.' rfl).2
      · rfl

theorem splitExponent_write {exponent : Option (Bool × List Char)}
    (digitsOnly : ∀ split ∈ exponent, Digits split.2) (ends : EndsNumber rest) :
    splitExponent (writeExponent exponent ++ rest) = some (exponent, rest) := by
  cases exponent with
  | some split =>
      obtain ⟨negative, digits⟩ := split
      have taken := splitDigits_append (digitsOnly _ rfl) fun char first => (ends char first).1
      have sign : Numeral.splitSign ((if negative then '-' else '+') :: (digits ++ rest)) =
          (negative, digits ++ rest) := by
        cases negative <;> rfl
      rw [writeExponent, List.cons_append, List.cons_append, splitExponent, if_pos (Or.inl rfl),
        sign]
      simp only [taken, Option.map_some]
  | none =>
      cases rest with
      | nil => rfl
      | cons first rest =>
          obtain ⟨-, -, small, large⟩ := ends first rfl
          rw [writeExponent, List.nil_append, splitExponent, if_neg (not_or.mpr ⟨small, large⟩)]

theorem head?_writeExponent (exponent : Option (Bool × List Char)) (ends : EndsNumber rest) :
    ∀ char ∈ (writeExponent exponent ++ rest).head?, char.isDigit = false ∧ char ≠ '.' := by
  intro char first
  cases exponent with
  | some split =>
      cases first
      decide
  | none => exact ⟨(ends char first).1, (ends char first).2.1⟩

theorem head?_writeFraction (fraction : Option (List Char))
    (ends : ∀ char ∈ rest.head?, char.isDigit = false ∧ char ≠ '.') :
    ∀ char ∈ (writeFraction fraction ++ rest).head?, char.isDigit = false := by
  intro char first
  cases fraction with
  | some digits =>
      cases first
      rfl
  | none => exact (ends char first).1

theorem splitNumber_written {text : NumberText} (wellFormed : text.WellFormed)
    (ends : EndsNumber rest) : splitNumber (text.written ++ rest) = some (text, rest) := by
  obtain ⟨negative, whole, fraction, exponent⟩ := text
  obtain ⟨wholeDigits, alone, fractionDigits, exponentDigits⟩ := wellFormed
  have exponentHead := head?_writeExponent exponent ends
  have fractionHead := head?_writeFraction fraction exponentHead
  have allowed : ¬(whole.head? = some '0' ∧ whole.length ≠ 1) := fun both => both.2 (alone both.1)
  have assoc : NumberText.written ⟨negative, whole, fraction, exponent⟩ ++ rest =
      (if negative then ['-'] else []) ++
        (whole ++ (writeFraction fraction ++ (writeExponent exponent ++ rest))) := by
    simp only [NumberText.written, List.append_assoc]
  have wholeTaken := splitDigits_append wholeDigits fractionHead
  have fractionTaken := splitFraction_write fractionDigits exponentHead
  have exponentTaken := splitExponent_write exponentDigits ends
  rw [assoc]
  unfold splitNumber
  cases negative with
  | true =>
      simp only [if_true, List.cons_append, List.nil_append, wholeTaken, Option.bind_eq_bind,
        Option.bind_some, if_neg allowed, fractionTaken, exponentTaken]
      rfl
  | false =>
      rw [if_neg Bool.false_ne_true, List.nil_append]
      split
      · next negativeText body parts =>
          split at parts
          · next more same =>
              obtain ⟨first, others, rfl, digit⟩ := wholeDigits.exists_cons
              cases List.head_eq_of_cons_eq same
              contradiction
          · cases parts
            simp only [wholeTaken, Option.bind_eq_bind, Option.bind_some, if_neg allowed,
              fractionTaken, exponentTaken]
            rfl

theorem NumberText.WellFormed.exists_written {text : NumberText} (wellFormed : text.WellFormed) :
    ∃ first others, text.written = first :: others ∧ (first = '-' ∨ first.isDigit = true) := by
  obtain ⟨first, others, parts, digit⟩ := wellFormed.whole.exists_cons
  unfold written
  rw [parts]
  cases text.negative with
  | true => exact ⟨'-', _, rfl, Or.inl rfl⟩
  | false => exact ⟨first, _, rfl, Or.inr digit⟩

theorem readNumber_written {text : NumberText} {value : Number} (wellFormed : text.WellFormed)
    (valueIs : text.value = some value) (ends : EndsNumber rest) :
    readNumber (text.written ++ rest) = some (value, rest) := by
  unfold readNumber
  rw [splitNumber_written wellFormed ends]
  simp only [Option.bind_eq_bind, Option.bind_some, valueIs]
  rfl

/-- The parts of a written integer. -/
def integerText (number : Int) : NumberText :=
  ⟨decide (number < 0), Nat.toDigits 10 number.natAbs, none, none⟩

theorem written_integerText (number : Int) :
    (integerText number).written = Numeral.ofInt number := by
  unfold Numeral.ofInt integerText NumberText.written
  simp only [decide_eq_true_eq, writeFraction, writeExponent, List.append_nil]
  split <;> rfl

theorem wellFormed_integerText (number : Int) : (integerText number).WellFormed := by
  have alone : (Nat.toDigits 10 number.natAbs).head? = some '0' →
      (Nat.toDigits 10 number.natAbs).length = 1 := by
    intro leading
    have zero : number.natAbs = 0 := Decidable.byContradiction fun nonzero =>
      Numeral.head?_toDigits (Nat.pos_of_ne_zero nonzero) leading
    rw [zero]
    rfl
  refine { whole := Numeral.digits_toDigits _, alone := alone, fraction := ?_, exponent := ?_ }
  · simp [integerText]
  · simp [integerText]

theorem le_ofDigitChars (digits : List Char) (initial : Nat) :
    initial ≤ Nat.ofDigitChars 10 digits initial := by
  induction digits generalizing initial with
  | nil => exact Nat.le_refl initial
  | cons digit rest inductionHypothesis =>
      rw [Nat.ofDigitChars_cons]
      exact Nat.le_trans (by omega) (inductionHypothesis _)

/-- Digits whose value fits are all taken. -/
theorem absorb_of_fits (digits : List Char) :
    ∀ significand, Nat.ofDigitChars 10 digits significand < Nat.pow 2 64 →
      absorb significand digits = (Nat.ofDigitChars 10 digits significand, digits.length) := by
  induction digits with
  | nil => exact fun significand _ => rfl
  | cons digit rest inductionHypothesis =>
      intro significand fits
      have next : significand * 10 + Numeral.digitsValue [digit] =
          10 * significand + (digit.toNat - '0'.toNat) := by
        unfold Numeral.digitsValue
        rw [Nat.ofDigitChars_cons, Nat.ofDigitChars_nil]
        omega
      rw [Nat.ofDigitChars_cons, ← next] at fits
      have nextFits := Nat.lt_of_le_of_lt (le_ofDigitChars rest _) fits
      rw [absorb]
      simp only [if_pos nextFits, inductionHypothesis _ fits]
      rw [Nat.ofDigitChars_cons, next, List.length_cons]

theorem wholeValue_toInt (value : Int64) :
    wholeValue (decide (value.toInt < 0)) value.toInt.natAbs = .integer value := by
  have notMinusZero : ¬(decide (value.toInt < 0) = true ∧ value.toInt.natAbs = 0) := by
    rw [decide_eq_true_eq]
    omega
  have signed : (if decide (value.toInt < 0) = true then -(value.toInt.natAbs : Int)
      else value.toInt.natAbs) = value.toInt := by
    simp only [decide_eq_true_eq]
    omega
  rw [wholeValue, if_neg notMinusZero, signed, Numeral.fitInt64_toInt]

theorem readNumber_ofInt (value : Int64) (ends : EndsNumber rest) :
    readNumber (Numeral.ofInt value.toInt ++ rest) = some (.integer value, rest) := by
  have magnitude : Nat.ofDigitChars 10 (Nat.toDigits 10 value.toInt.natAbs) 0 =
      value.toInt.natAbs := Numeral.digitsValue_toDigits _
  have small : value.toInt.natAbs < Nat.pow 2 64 := by
    have low := value.le_toInt
    have high := value.toInt_lt
    have size : Nat.pow 2 64 = 18446744073709551616 := rfl
    omega
  have taken := absorb_of_fits (Nat.toDigits 10 value.toInt.natAbs) 0 (magnitude.symm ▸ small)
  have valueIs : (integerText value.toInt).value = some (.integer value) := by
    simp only [integerText, NumberText.value, taken, magnitude, Nat.sub_self, if_pos,
      wholeValue_toInt]
  rw [← written_integerText]
  exact readNumber_written (wellFormed_integerText value.toInt) valueIs ends

end Json

end Circuitry

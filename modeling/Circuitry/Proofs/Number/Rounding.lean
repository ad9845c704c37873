import Circuitry.Number.Binary64
import Mathlib.Data.Nat.Log
import Mathlib.Order.Monotone.Basic
import Mathlib.Tactic.Ring

/-!
# Rounding keeps the order

The units of a word grow with its magnitude, from each magnitude to the next by one step of the
last bit.  Rounding a quotient is monotone in the dividend: two dividends have different shifts only
when a power of two lies between them, and there the larger shift begins where the smaller one ends.
So the product is monotone in both factors.
-/

namespace Circuitry.Binary64

theorem magnitude_ofMagnitude {magnitude : Nat} (fits : magnitude < Nat.pow 2 63)
    (negative : Bool) : (ofMagnitude negative magnitude).magnitude = magnitude := by
  unfold ofMagnitude Binary64.magnitude
  rw [UInt64.toNat_ofNat']
  simp only [Nat.pow_eq] at fits ⊢
  split <;> omega

theorem ofMagnitude_parts (number : Binary64) :
    ofMagnitude number.isNegative number.magnitude = number := by
  have word := number.bits.toNat_lt
  refine congrArg Binary64.mk (UInt64.toNat_inj.mp ?_)
  unfold isNegative magnitude
  rw [UInt64.toNat_ofNat']
  simp only [Nat.pow_eq, decide_eq_true_eq]
  split <;> omega

/-- The word is a number, and no infinite one. -/
def IsFinite (number : Binary64) : Prop :=
  number.magnitude < infiniteMagnitude

instance (number : Binary64) : Decidable number.IsFinite :=
  inferInstanceAs (Decidable (number.magnitude < infiniteMagnitude))

/-- The units of the words with a magnitude. -/
def unitsAt (magnitude : Nat) : Nat :=
  (if magnitude / 2 ^ 52 = 0 then magnitude else magnitude % 2 ^ 52 + 2 ^ 52)
    * 2 ^ (magnitude / 2 ^ 52 - 1)

theorem units_eq_unitsAt (number : Binary64) : number.units = unitsAt number.magnitude :=
  rfl

theorem unitsAt_succ (magnitude : Nat) :
    unitsAt (magnitude + 1) = unitsAt magnitude + 2 ^ (magnitude / 2 ^ 52 - 1) := by
  unfold unitsAt
  by_cases carry : magnitude % 2 ^ 52 + 1 = 2 ^ 52
  · have field : (magnitude + 1) / 2 ^ 52 = magnitude / 2 ^ 52 + 1 := by omega
    have fraction : (magnitude + 1) % 2 ^ 52 = 0 := by omega
    rw [field, fraction, if_neg (Nat.succ_ne_zero _), Nat.add_sub_cancel, Nat.zero_add]
    by_cases subnormal : magnitude / 2 ^ 52 = 0
    · rw [if_pos subnormal, subnormal]
      omega
    · obtain ⟨exponent, normal⟩ := Nat.exists_eq_succ_of_ne_zero subnormal
      have last : magnitude % 2 ^ 52 = 2 ^ 52 - 1 := by omega
      rw [if_neg subnormal, last, normal, Nat.succ_sub_one, Nat.pow_succ]
      omega
  · have field : (magnitude + 1) / 2 ^ 52 = magnitude / 2 ^ 52 := by omega
    have fraction : (magnitude + 1) % 2 ^ 52 = magnitude % 2 ^ 52 + 1 := by omega
    rw [field, fraction]
    split <;> ring

theorem unitsAt_mono : Monotone unitsAt :=
  monotone_nat_of_le_succ fun magnitude => by
    rw [unitsAt_succ]
    exact Nat.le_add_right _ _

theorem units_mono {small large : Binary64} (order : small.magnitude ≤ large.magnitude) :
    small.units ≤ large.units := by
  rw [units_eq_unitsAt, units_eq_unitsAt]
  exact unitsAt_mono order

theorem le_roundHalfEven (dividend divisor : Nat) :
    dividend / divisor ≤ roundHalfEven dividend divisor := by
  unfold roundHalfEven
  dsimp only
  split
  · exact Nat.le_refl _
  · split <;> omega

theorem roundHalfEven_le (dividend divisor : Nat) :
    roundHalfEven dividend divisor ≤ dividend / divisor + 1 := by
  unfold roundHalfEven
  dsimp only
  split
  · omega
  · split <;> omega

theorem roundHalfEven_mono {small large : Nat} (order : small ≤ large) (divisor : Nat) :
    roundHalfEven small divisor ≤ roundHalfEven large divisor := by
  rcases Nat.lt_or_eq_of_le (Nat.div_le_div_right order : small / divisor ≤ large / divisor) with
    apart | same
  · have upper := roundHalfEven_le small divisor
    have lower := le_roundHalfEven large divisor
    omega
  · have remainders : small % divisor ≤ large % divisor := by
      have smallParts := Nat.div_add_mod small divisor
      have largeParts := Nat.div_add_mod large divisor
      rw [same] at smallParts
      omega
    unfold roundHalfEven
    dsimp only
    rw [same]
    repeat' split
    all_goals omega

/-- The magnitude of a rounded quotient before infinity cuts it off. -/
def roundedMagnitude (scaled divisor : Nat) : Nat :=
  ((scaled / divisor).log2 - 52) * 2 ^ 52
    + roundHalfEven scaled (divisor * 2 ^ ((scaled / divisor).log2 - 52))

theorem magnitude_ofRatio (negative : Bool) (dividend divisor : Nat) :
    (ofRatio negative dividend divisor).magnitude =
      min (roundedMagnitude (dividend * unitsPerOne) divisor) infiniteMagnitude := by
  have fits : infiniteMagnitude < Nat.pow 2 63 := by decide
  exact magnitude_ofMagnitude (Nat.lt_of_le_of_lt (Nat.min_le_right _ _) fits) negative

theorem roundedMagnitude_le (scaled divisor : Nat) :
    roundedMagnitude scaled divisor ≤ ((scaled / divisor).log2 - 52 + 2) * 2 ^ 52 := by
  have quotient : scaled / (divisor * 2 ^ ((scaled / divisor).log2 - 52)) < 2 ^ 53 := by
    rw [← Nat.div_div_eq_div_mul, Nat.div_lt_iff_lt_mul (Nat.two_pow_pos _), ← Nat.pow_add]
    refine Nat.lt_of_lt_of_le Nat.lt_log2_self ?_
    exact Nat.pow_le_pow_right (by decide) (by omega)
  have upper := roundHalfEven_le scaled (divisor * 2 ^ ((scaled / divisor).log2 - 52))
  unfold roundedMagnitude
  omega

theorem le_roundedMagnitude {scaled divisor : Nat} (normal : 52 ≤ (scaled / divisor).log2) :
    ((scaled / divisor).log2 - 52 + 1) * 2 ^ 52 ≤ roundedMagnitude scaled divisor := by
  have positive : scaled / divisor ≠ 0 := by
    intro zero
    rw [zero, Nat.log2_zero] at normal
    contradiction
  have quotient : 2 ^ 52 ≤ scaled / (divisor * 2 ^ ((scaled / divisor).log2 - 52)) := by
    rw [← Nat.div_div_eq_div_mul, Nat.le_div_iff_mul_le (Nat.two_pow_pos _), ← Nat.pow_add,
      Nat.add_sub_cancel' normal]
    exact Nat.log2_self_le positive
  have lower := le_roundHalfEven scaled (divisor * 2 ^ ((scaled / divisor).log2 - 52))
  unfold roundedMagnitude
  omega

theorem roundedMagnitude_mono {small large : Nat} (order : small ≤ large) (divisor : Nat) :
    roundedMagnitude small divisor ≤ roundedMagnitude large divisor := by
  have quotients : small / divisor ≤ large / divisor := Nat.div_le_div_right order
  have logs : (small / divisor).log2 ≤ (large / divisor).log2 := by
    rw [Nat.log2_eq_log_two, Nat.log2_eq_log_two]
    exact Nat.log_mono_right quotients
  by_cases same : (small / divisor).log2 - 52 = (large / divisor).log2 - 52
  · unfold roundedMagnitude
    rw [same]
    exact Nat.add_le_add_left (roundHalfEven_mono order _) _
  · have upper := roundedMagnitude_le small divisor
    have lower : ((large / divisor).log2 - 52 + 1) * 2 ^ 52 ≤ roundedMagnitude large divisor :=
      le_roundedMagnitude (by omega)
    omega

theorem ofRatio_mono {small large : Nat} (order : small ≤ large) (negative : Bool)
    (divisor : Nat) :
    (ofRatio negative small divisor).magnitude ≤ (ofRatio negative large divisor).magnitude := by
  have scaled : small * unitsPerOne ≤ large * unitsPerOne := Nat.mul_le_mul_right _ order
  rw [magnitude_ofRatio, magnitude_ofRatio]
  exact min_le_min_right _ (roundedMagnitude_mono scaled divisor)

theorem magnitude_multiply (left right : Binary64) :
    (left.multiply right).magnitude =
      (ofRatio false (left.units * right.units) (unitsPerOne * unitsPerOne)).magnitude := by
  unfold multiply
  rw [magnitude_ofRatio, magnitude_ofRatio]

theorem multiply_mono {left right largerLeft largerRight : Binary64}
    (leftOrder : left.magnitude ≤ largerLeft.magnitude)
    (rightOrder : right.magnitude ≤ largerRight.magnitude) :
    (left.multiply right).magnitude ≤ (largerLeft.multiply largerRight).magnitude := by
  rw [magnitude_multiply, magnitude_multiply]
  exact ofRatio_mono (Nat.mul_le_mul (units_mono leftOrder) (units_mono rightOrder)) false _

end Circuitry.Binary64

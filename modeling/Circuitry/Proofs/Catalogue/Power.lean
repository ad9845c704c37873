import Circuitry.Catalogue.Payload
import Mathlib.Algebra.Order.Ring.Nat
import Mathlib.Tactic.Ring

/-!
# Powers of words

The product of a word and a power is computed by squaring the base while the exponent is halved.
Every product on the way is at most the final one, unless the base or the factor is zero, so the
computation fails only when the final product does not fit.
-/

namespace Circuitry

theorem wordOf?_of_lt {number : Nat} (fits : number < 2 ^ 64) :
    wordOf? number = some (UInt64.ofNat number) :=
  if_pos fits

theorem wordOf?_of_le {number : Nat} (large : 2 ^ 64 ≤ number) : wordOf? number = none :=
  if_neg (Nat.not_lt.mpr large)

theorem toNat_ofNat_of_lt {number : Nat} (fits : number < 2 ^ 64) :
    (UInt64.ofNat number).toNat = number :=
  UInt64.toNat_ofNat_of_lt' fits

@[simp] theorem wordOf?_toNat (word : UInt64) : wordOf? word.toNat = some word := by
  rw [wordOf?_of_lt word.toNat_lt, UInt64.ofNat_toNat]

/-- A number on the way that is at most the final one does no harm: where it does not fit, neither
does the final one. -/
theorem wordOf?_bind_eq {number total : Nat} {next : UInt64 → Option UInt64}
    (bounded : number ≤ total)
    (continues : ∀ word : UInt64, word.toNat = number → next word = wordOf? total) :
    (wordOf? number).bind next = wordOf? total := by
  by_cases fits : number < 2 ^ 64
  · rw [wordOf?_of_lt fits]
    exact continues _ (toNat_ofNat_of_lt fits)
  · have large := Nat.not_lt.mp fits
    rw [wordOf?_of_le large, wordOf?_of_le (large.trans bounded)]
    rfl

section Steps

variable (factor base : UInt64)

theorem timesPower?_zero : timesPower? factor base 0 = some factor := by
  rw [timesPower?, if_pos rfl]

theorem timesPower?_one : timesPower? factor base 1 = wordOf? (factor.toNat * base.toNat) := by
  rw [timesPower?, if_neg Nat.one_ne_zero, if_pos rfl]

theorem timesPower?_even {half : Nat} (positive : 0 < half) :
    timesPower? factor base (2 * half) =
      (wordOf? (base.toNat * base.toNat)).bind fun square => timesPower? factor square half := by
  have notZero : 2 * half ≠ 0 := by omega
  have notOne : 2 * half ≠ 1 := by omega
  have even : ¬ 2 * half % 2 = 1 := by omega
  have halved : 2 * half / 2 = half := by omega
  rw [timesPower?, if_neg notZero, if_neg notOne, if_neg even, halved]
  rfl

theorem timesPower?_odd {half : Nat} (positive : 0 < half) :
    timesPower? factor base (2 * half + 1) =
      (wordOf? (factor.toNat * base.toNat)).bind fun product =>
        (wordOf? (base.toNat * base.toNat)).bind fun square =>
          timesPower? product square half := by
  have notZero : 2 * half + 1 ≠ 0 := by omega
  have notOne : 2 * half + 1 ≠ 1 := by omega
  have odd : (2 * half + 1) % 2 = 1 := by omega
  have halved : (2 * half + 1) / 2 = half := by omega
  rw [timesPower?, if_neg notZero, if_neg notOne, if_pos odd, halved]
  rfl

end Steps

theorem square_le_mul_pow {factor base exponent : Nat} (two : 2 ≤ exponent)
    (positive : 0 < base → 0 < factor) : base * base ≤ factor * base ^ exponent := by
  rcases Nat.eq_zero_or_pos base with rfl | basePositive
  · exact Nat.zero_le _
  · calc base * base = base ^ 2 := (Nat.pow_two base).symm
      _ ≤ base ^ exponent := Nat.pow_le_pow_right basePositive two
      _ ≤ factor * base ^ exponent := Nat.le_mul_of_pos_left _ (positive basePositive)

/-- The computation fails exactly when the product does not fit.  The factor stays positive as long
as the base does. -/
theorem timesPower?_eq {factor base : UInt64} {exponent : Nat}
    (positive : 0 < base.toNat → 0 < factor.toNat) :
    timesPower? factor base exponent = wordOf? (factor.toNat * base.toNat ^ exponent) := by
  induction exponent using Nat.strong_induction_on generalizing factor base with
  | _ exponent inductionHypothesis =>
      rcases Nat.eq_zero_or_pos (exponent / 2) with small | halfPositive
      · have few : exponent = 0 ∨ exponent = 1 := by omega
        rcases few with rfl | rfl
        · rw [timesPower?_zero, Nat.pow_zero, Nat.mul_one, wordOf?_toNat]
        · rw [timesPower?_one, Nat.pow_one]
      · have bounded : base.toNat * base.toNat ≤ factor.toNat * base.toNat ^ exponent :=
          square_le_mul_pow (by omega) positive
        have basePositive {square : UInt64} (squared : square.toNat = base.toNat * base.toNat)
            (squarePositive : 0 < square.toNat) : 0 < base.toNat :=
          Nat.pos_of_mul_pos_left (squared ▸ squarePositive)
        rcases Nat.even_or_odd' exponent with ⟨half, rfl | rfl⟩
        · rw [timesPower?_even factor base (by omega)]
          refine wordOf?_bind_eq bounded fun square squared => ?_
          rw [inductionHypothesis half (by omega) (positive ∘ basePositive squared), squared]
          ring_nf
        · rw [timesPower?_odd factor base (by omega)]
          refine wordOf?_bind_eq ?_ fun product multiplied => ?_
          · exact Nat.mul_le_mul_left _ (Nat.le_self_pow (Nat.succ_ne_zero _) _)
          · refine wordOf?_bind_eq bounded fun square squared => ?_
            have stays : 0 < square.toNat → 0 < product.toNat := by
              intro squarePositive
              have left := basePositive squared squarePositive
              rw [multiplied]
              exact Nat.mul_pos (positive left) left
            rw [inductionHypothesis half (by omega) stays, multiplied, squared]
            ring_nf

/-- A power is computed when its exponent fits 32 bits and the power fits 64. -/
theorem wordPower?_eq (base exponent : UInt64) :
    wordPower? base exponent =
      if exponent.toNat < 2 ^ 32 then wordOf? (base.toNat ^ exponent.toNat) else none := by
  have start : timesPower? 1 base exponent.toNat = wordOf? (base.toNat ^ exponent.toNat) := by
    rw [timesPower?_eq fun _ => UInt64.toNat_one ▸ Nat.one_pos, UInt64.toNat_one, Nat.one_mul]
  rw [← start]
  rfl

end Circuitry

import Circuitry.Number.Decimal
import Circuitry.Proofs.Number.Rounding
import Mathlib.Algebra.Order.Field.Power
import Mathlib.Tactic.FieldSimp
import Mathlib.Tactic.Linarith
import Mathlib.Tactic.NormNum

/-!
# The shortest decimal

The exponent of the first digit is the decimal logarithm, rounded down.  On each grid of multiples
of a power of ten the two neighbours of the number are tried.  With seventeen digits neighbours are
closer to each other than the ends of the rounding interval, so one of them lies inside.  The
shortest decimal of a finite number therefore has at most seventeen digits, and it never exceeds the
largest finite number.
-/

namespace Circuitry

namespace Decimal

/-- The number that a decimal denotes. -/
def value (number : Decimal) : ℚ :=
  number.digits * 10 ^ number.exponent

theorem value_ofNat (digits exponent : Nat) :
    value ⟨digits, exponent⟩ = (digits * 10 ^ exponent : Nat) := by
  simp [value]

theorem value_normalize (fuel : Nat) (number : Decimal) :
    (normalize fuel number).value = number.value := by
  induction fuel generalizing number with
  | zero => rfl
  | succ fuel inductionHypothesis =>
      rw [normalize]
      split
      · next zeroAtEnd =>
          have parts : number.digits = number.digits / 10 * 10 := by omega
          have cast : (number.digits : ℚ) = (number.digits / 10 : Nat) * 10 := by
            exact_mod_cast parts
          rw [inductionHypothesis, value, value, cast, zpow_add_one₀ (by norm_num), mul_assoc,
            mul_comm (10 : ℚ)]
      · rfl

theorem digits_normalize_le (fuel : Nat) (number : Decimal) :
    (normalize fuel number).digits ≤ number.digits := by
  induction fuel generalizing number with
  | zero => exact Nat.le_refl _
  | succ fuel inductionHypothesis =>
      rw [normalize]
      split
      · exact Nat.le_trans (inductionHypothesis _) (Nat.div_le_self _ _)
      · exact Nat.le_refl _

theorem digits_normalize_ne_zero (fuel : Nat) {number : Decimal} (nonzero : number.digits ≠ 0) :
    (normalize fuel number).digits ≠ 0 := by
  induction fuel generalizing number with
  | zero => exact nonzero
  | succ fuel inductionHypothesis =>
      rw [normalize]
      split
      · exact inductionHypothesis (by simp only; omega)
      · exact nonzero

end Decimal

namespace Binary64

/-- The distance of neighbours on the grid of multiples of `10 ^ exponent`, in units. -/
def gridStep (exponent : Int) : ℚ :=
  10 ^ exponent * unitsPerOne

theorem unitsPerOne_eq : unitsPerOne = Nat.pow 2 1074 := by
  delta unitsPerOne
  rfl

theorem unitsPerOne_pos : 0 < unitsPerOne := by
  have positive : ∀ {places one : Nat}, one = Nat.pow 2 places → 0 < one := by
    rintro places _ rfl
    exact Nat.two_pow_pos places
  exact positive unitsPerOne_eq

theorem gridStep_pos (exponent : Int) : 0 < gridStep exponent :=
  mul_pos (zpow_pos (by norm_num) exponent) (Nat.cast_pos.mpr unitsPerOne_pos)

theorem gridStep_add (exponent : Int) (places : Nat) :
    gridStep (exponent + places) = 10 ^ places * gridStep exponent := by
  rw [gridStep, gridStep, zpow_add₀ (by norm_num), zpow_natCast]
  ring

/-- The divisor and the step that the grid is computed with give its distance. -/
theorem gridStep_parts (exponent : Int) :
    ((if 0 ≤ exponent then Nat.pow 10 exponent.toNat * unitsPerOne else unitsPerOne : Nat) : ℚ) =
      (if 0 ≤ exponent then 1 else Nat.pow 10 (-exponent).toNat : Nat) * gridStep exponent := by
  unfold gridStep
  generalize unitsPerOne = one
  split
  · next nonnegative =>
      obtain ⟨power, rfl⟩ := Int.eq_ofNat_of_zero_le nonnegative
      simp
  · next negative =>
      obtain ⟨power, opposite⟩ := Int.eq_ofNat_of_zero_le (show 0 ≤ -exponent by omega)
      have exponentIs : exponent = -power := by omega
      subst exponentIs
      simp

theorem powerAtMost_iff (exponent : Int) (units : Nat) :
    powerAtMost exponent units = true ↔ gridStep exponent ≤ units := by
  have parts := gridStep_parts exponent
  unfold powerAtMost
  split
  · next nonnegative =>
      rw [if_pos nonnegative, if_pos nonnegative, Nat.cast_one, one_mul] at parts
      rw [decide_eq_true_eq, ← parts, Nat.cast_le]
  · next negative =>
      rw [if_neg negative, if_neg negative] at parts
      have positive : (0 : ℚ) < Nat.pow 10 (-exponent).toNat := by
        exact_mod_cast Nat.pow_pos (by decide)
      rw [decide_eq_true_eq, ← Nat.cast_le (α := ℚ), parts, Nat.cast_mul, mul_comm,
        mul_le_mul_iff_left₀ positive]

/-! ## The exponent of the first digit -/

theorem ten_zpow_le_of_step (root : Int) {tens twos times exponent power : Int}
    (step : (10 : ℚ) ^ tens ≤ 2 ^ twos) (forwards : 0 ≤ times) (positive : 0 < root)
    (exponents : exponent * root ≤ tens * times) (powers : twos * times = power * root) :
    (10 : ℚ) ^ exponent ≤ 2 ^ power := by
  refine (zpow_le_zpow_iff_left₀ (by positivity) (by positivity) positive).mp ?_
  calc ((10 : ℚ) ^ exponent) ^ root = 10 ^ (exponent * root) := (zpow_mul _ _ _).symm
    _ ≤ 10 ^ (tens * times) := zpow_le_zpow_right₀ (by norm_num) exponents
    _ = (10 ^ tens) ^ times := zpow_mul _ _ _
    _ ≤ (2 ^ twos) ^ times := zpow_le_zpow_left₀ forwards (by positivity) step
    _ = 2 ^ (power * root) := by rw [← zpow_mul, powers]
    _ = (2 ^ power) ^ root := zpow_mul _ _ _

/-- The quotients `59 / 196` and `28 / 93` lie on the two sides of the decimal logarithm of two. -/
theorem ten_zpow_le_two_zpow {exponent power : Int} (above : 196 * exponent ≤ 59 * power)
    (below : 93 * exponent ≤ 28 * power) : (10 : ℚ) ^ exponent ≤ 2 ^ power := by
  rcases Int.le_total 0 power with nonnegative | nonpositive
  · have step : (10 : ℚ) ^ (59 : Int) ≤ 2 ^ (196 : Int) := by norm_num
    exact ten_zpow_le_of_step 196 step nonnegative (by decide) (by omega) (by omega)
  · have step : (10 : ℚ) ^ (-28 : Int) ≤ 2 ^ (-93 : Int) := by norm_num
    have backwards : 0 ≤ -power := by omega
    exact ten_zpow_le_of_step 93 step backwards (by decide) (by omega) (by omega)

theorem two_zpow_le_ten_zpow {exponent power : Int} (above : 59 * power ≤ 196 * exponent)
    (below : 28 * power ≤ 93 * exponent) : (2 : ℚ) ^ power ≤ 10 ^ exponent := by
  have inverse : (10 : ℚ) ^ (-exponent) ≤ 2 ^ (-power) :=
    ten_zpow_le_two_zpow (by omega) (by omega)
  rw [zpow_neg, zpow_neg] at inverse
  exact (inv_le_inv₀ (by positivity) (by positivity)).mp inverse

theorem two_pow_eq (power : Nat) : (2 : ℚ) ^ power = 2 ^ ((power : Int) - 1074) * unitsPerOne := by
  have cast : ∀ {places one : Nat}, one = Nat.pow 2 places → (one : ℚ) = 2 ^ (places : Int) := by
    rintro places _ rfl
    rw [Nat.pow_eq, Nat.cast_pow, Nat.cast_ofNat, zpow_natCast]
  rw [cast unitsPerOne_eq, ← zpow_add₀ (by norm_num), Nat.cast_ofNat, Int.sub_add_cancel,
    zpow_natCast]

theorem raiseExponent_spec {units : Nat} (fuel : Nat) {exponent : Int}
    (low : powerAtMost exponent units = true)
    (high : powerAtMost (exponent + fuel + 1) units = false) :
    powerAtMost (raiseExponent fuel exponent units) units = true ∧
      powerAtMost (raiseExponent fuel exponent units + 1) units = false := by
  induction fuel generalizing exponent with
  | zero => exact ⟨low, by simpa [raiseExponent] using high⟩
  | succ fuel inductionHypothesis =>
      rw [raiseExponent]
      split
      · next next =>
          refine inductionHypothesis next ?_
          rw [Int.add_right_comm exponent 1, Int.add_assoc exponent]
          exact high
      · next stays => exact ⟨low, Bool.eq_false_iff.mpr stays⟩

/-- The number stands between the power of ten of its first digit and the next one. -/
theorem decimalExponent_spec {units : Nat} (positive : 0 < units) (bits : units.log2 < 2098) :
    gridStep (decimalExponent units) ≤ units ∧ units < gridStep (decimalExponent units + 1) := by
  have lower : (2 : ℚ) ^ units.log2 ≤ units := by
    exact_mod_cast Nat.log2_self_le (Nat.ne_of_gt positive)
  have upper : (units : ℚ) < 2 ^ (units.log2 + 1) := by
    exact_mod_cast Nat.lt_log2_self
  rw [two_pow_eq] at lower upper
  unfold decimalExponent
  generalize estimateIs : ((units.log2 : Int) - 1074) * 30103 / 100000 - 2 = estimate
  have low : powerAtMost estimate units = true := by
    refine (powerAtMost_iff _ _).mpr (le_trans ?_ lower)
    have powers : (10 : ℚ) ^ estimate ≤ 2 ^ ((units.log2 : Int) - 1074) :=
      ten_zpow_le_two_zpow (by omega) (by omega)
    exact mul_le_mul_of_nonneg_right powers (Nat.cast_nonneg _)
  have high : powerAtMost (estimate + (4 : Nat) + 1) units = false := by
    refine Bool.eq_false_iff.mpr fun atMost => ?_
    refine absurd (lt_of_le_of_lt ((powerAtMost_iff _ _).mp atMost) upper) (not_lt.mpr ?_)
    have powers : (2 : ℚ) ^ (((units.log2 + 1 : Nat) : Int) - 1074) ≤
        10 ^ (estimate + (4 : Nat) + 1) :=
      two_zpow_le_ten_zpow (by omega) (by omega)
    exact mul_le_mul_of_nonneg_right powers (Nat.cast_nonneg _)
  obtain ⟨atMost, next⟩ := raiseExponent_spec 4 low high
  refine ⟨(powerAtMost_iff _ _).mp atMost, ?_⟩
  rw [Bool.eq_false_iff, ne_eq, powerAtMost_iff, not_le] at next
  exact next

end Binary64

namespace RoundingInterval

/-- The point, counted in units, lies in the interval or at one of its ends. -/
def Contains (range : RoundingInterval) (point : ℚ) : Prop :=
  range.low ≤ 4 * point ∧ 4 * point ≤ range.high

/-- The point, counted in units, lies between the ends of the interval. -/
def Inside (range : RoundingInterval) (point : ℚ) : Prop :=
  range.low < 4 * point ∧ 4 * point < range.high

variable {range : RoundingInterval} {point divisor : Nat}

theorem contains_of_holds (positive : 0 < divisor) (holds : range.holds point divisor = true) :
    range.Contains (point / divisor) := by
  have divisorPositive : (0 : ℚ) < divisor := Nat.cast_pos.mpr positive
  have ends : range.low * divisor ≤ 4 * point ∧ 4 * point ≤ range.high * divisor := by
    unfold RoundingInterval.holds at holds
    dsimp only at holds
    split at holds <;> simp only [Bool.and_eq_true, decide_eq_true_eq] at holds <;> omega
  unfold Contains
  rw [← mul_div_assoc, le_div_iff₀ divisorPositive, div_le_iff₀ divisorPositive]
  exact_mod_cast ends

theorem holds_of_inside (positive : 0 < divisor) (inside : range.Inside (point / divisor)) :
    range.holds point divisor = true := by
  have divisorPositive : (0 : ℚ) < divisor := Nat.cast_pos.mpr positive
  unfold Inside at inside
  rw [← mul_div_assoc, lt_div_iff₀ divisorPositive, div_lt_iff₀ divisorPositive] at inside
  have ends : range.low * divisor < 4 * point ∧ 4 * point < range.high * divisor := by
    exact_mod_cast inside
  unfold RoundingInterval.holds
  dsimp only
  split <;> simp only [Bool.and_eq_true, decide_eq_true_eq] <;> omega

/-- Of two neighbours on a grid, `step` units apart, one that the interval holds is taken; if it
holds neither, neither lies inside. -/
theorem neighbour_cases {below up : Nat} {step : ℚ} (positive : 0 < divisor)
    (scaled : ∀ count : Nat, ((count * up : Nat) : ℚ) / divisor = count * step)
    (takeUpper : Bool) (exponent : Int) {found : Option Decimal}
    (taken : found =
      if range.holds (below * up) divisor && range.holds ((below + 1) * up) divisor then
        some ⟨if takeUpper then below + 1 else below, exponent⟩
      else if range.holds (below * up) divisor then some ⟨below, exponent⟩
      else if range.holds ((below + 1) * up) divisor then some ⟨below + 1, exponent⟩
      else none) :
    (∃ digits, (digits = below ∨ digits = below + 1) ∧ found = some ⟨digits, exponent⟩ ∧
        range.Contains (digits * step)) ∨
      (found = none ∧ ¬range.Inside (below * step) ∧
        ¬range.Inside ((below + 1 : Nat) * step)) := by
  have contains : ∀ count, range.holds (count * up) divisor = true →
      range.Contains (count * step) := by
    intro count holds
    rw [← scaled]
    exact contains_of_holds positive holds
  have outside : ∀ count, range.holds (count * up) divisor = false →
      ¬range.Inside (count * step) := by
    intro count refused inside
    rw [← scaled] at inside
    rw [holds_of_inside positive inside] at refused
    contradiction
  subst taken
  cases lower : range.holds (below * up) divisor <;>
    cases upper : range.holds ((below + 1) * up) divisor
  · exact Or.inr ⟨rfl, outside _ lower, outside _ upper⟩
  · exact Or.inl ⟨below + 1, Or.inr rfl, rfl, contains _ upper⟩
  · exact Or.inl ⟨below, Or.inl rfl, rfl, contains _ lower⟩
  · cases takeUpper with
    | false => exact Or.inl ⟨below, Or.inl rfl, rfl, contains _ lower⟩
    | true => exact Or.inl ⟨below + 1, Or.inr rfl, rfl, contains _ upper⟩

end RoundingInterval

namespace Binary64

/-- The two neighbours of a number on a grid are tried, and no other point of it: what is found lies
in the rounding interval, and if nothing is found, neither neighbour lies inside. -/
theorem onGrid_cases (tie : Tie) (number : Binary64) (exponent : Int) :
    ∃ below : Nat,
      below * gridStep exponent ≤ number.units ∧
      number.units < (below + 1 : Nat) * gridStep exponent ∧
      ((∃ digits, (digits = below ∨ digits = below + 1) ∧
          onGrid tie number exponent = some ⟨digits, exponent⟩ ∧
          number.interval.Contains (digits * gridStep exponent)) ∨
        (onGrid tie number exponent = none ∧
          ¬number.interval.Inside (below * gridStep exponent) ∧
          ¬number.interval.Inside ((below + 1 : Nat) * gridStep exponent))) := by
  have parts := gridStep_parts exponent
  have downPositive : 0 < if 0 ≤ exponent then 1 else Nat.pow 10 (-exponent).toNat := by
    split
    · exact Nat.one_pos
    · exact Nat.pow_pos (by decide)
  unfold onGrid
  dsimp only
  generalize (if 0 ≤ exponent then Nat.pow 10 exponent.toNat * unitsPerOne else unitsPerOne) = up
    at parts ⊢
  generalize (if 0 ≤ exponent then 1 else Nat.pow 10 (-exponent).toNat) = down
    at parts downPositive ⊢
  have downCast : (0 : ℚ) < down := Nat.cast_pos.mpr downPositive
  have upPositive : 0 < up := by
    have product := mul_pos downCast (gridStep_pos exponent)
    rw [← parts] at product
    exact Nat.cast_pos.mp product
  have scaled : ∀ count : Nat, ((count * up : Nat) : ℚ) / down = count * gridStep exponent := by
    intro count
    rw [Nat.cast_mul, parts]
    field_simp
  refine ⟨number.units * down / up, ?_, ?_, ?_⟩
  · rw [← scaled, div_le_iff₀ downCast]
    exact_mod_cast Nat.div_mul_le_self _ _
  · rw [← scaled, lt_div_iff₀ downCast]
    exact_mod_cast Nat.lt_mul_of_div_lt (Nat.lt_succ_self _) upPositive
  · exact RoundingInterval.neighbour_cases downPositive scaled _ exponent rfl

/-! ## Seventeen digits suffice -/

theorem significand_lt (number : Binary64) : number.significand < 2 ^ 53 := by
  unfold significand exponentField
  simp only [Nat.pow_eq]
  split <;> omega

theorem significand_pos {number : Binary64} (nonzero : number.magnitude ≠ 0) :
    0 < number.significand := by
  unfold significand
  simp only [Nat.pow_eq]
  split <;> omega

theorem interval_ends {number : Binary64} (nonzero : number.magnitude ≠ 0) :
    ((number.interval.low : ℚ) = 4 * number.units - 2 * 2 ^ number.unitExponent ∨
      (number.significand = 2 ^ 52 ∧
        (number.interval.low : ℚ) = 4 * number.units - 2 ^ number.unitExponent)) ∧
      (number.interval.high : ℚ) = 4 * number.units + 2 * 2 ^ number.unitExponent := by
  have positive := significand_pos nonzero
  have enough : 2 ^ number.unitExponent ≤ number.units := Nat.le_mul_of_pos_left _ positive
  refine ⟨?_, by simp [interval]⟩
  unfold interval
  dsimp only
  simp only [Nat.pow_eq]
  split
  · next narrow =>
      refine Or.inr ⟨narrow.1, ?_⟩
      rw [Nat.cast_sub (by omega)]
      push_cast
      rfl
  · refine Or.inl ?_
    rw [Nat.cast_sub (by omega)]
    push_cast
    rfl

/-- Neighbours on a grid with seventeen digits are closer to each other than the ends of the
rounding interval, so one of them lies inside. -/
theorem inside_of_fine {number : Binary64} (nonzero : number.magnitude ≠ 0) {step below : ℚ}
    (fine : 10 ^ 16 * step ≤ number.units) (low : below * step ≤ number.units)
    (high : number.units < (below + 1) * step) :
    number.interval.Inside (below * step) ∨ number.interval.Inside ((below + 1) * step) := by
  obtain ⟨lowEnd, highEnd⟩ := interval_ends nonzero
  have bitPositive : (0 : ℚ) < 2 ^ number.unitExponent := by positivity
  have parts : (number.units : ℚ) = number.significand * 2 ^ number.unitExponent := by
    simp [units]
  generalize (2 : ℚ) ^ number.unitExponent = bit at lowEnd highEnd bitPositive parts
  by_contra neither
  unfold RoundingInterval.Inside at neither
  rw [not_or, not_and_or, not_and_or] at neither
  obtain ⟨lowerOut, upperOut⟩ := neither
  have upperFar : 4 * ((below + 1) * step) ≥ 4 * number.units + 2 * bit := by
    obtain beyond | beyond := upperOut
    · obtain wide | ⟨-, narrow⟩ := lowEnd <;> linarith
    · linarith
  have lowerFar : 4 * (below * step) ≤ number.interval.low := by
    obtain beyond | beyond := lowerOut <;> linarith
  obtain wide | ⟨power, narrow⟩ := lowEnd
  · have fits : (number.significand : ℚ) ≤ 2 ^ 53 := by
      exact_mod_cast (significand_lt number).le
    have bound := mul_le_mul_of_nonneg_right fits bitPositive.le
    linarith
  · rw [power] at parts
    push_cast at parts
    linarith

/-- The grids are tried up to the one with seventeen digits, which has a hit. -/
theorem exists_firstOnGrid (tie : Tie) (number : Binary64) (leading : Int)
    (hit : onGrid tie number (leading - 16) ≠ none) (fuel : Nat) {count : Nat}
    (last : count + fuel = 17) :
    ∃ places found, count ≤ places ∧ places ≤ 17 ∧
      onGrid tie number (leading - places + 1) = some found ∧
      firstOnGrid tie number leading (fuel + 1) count = found.normalize 20 := by
  induction fuel generalizing count with
  | zero =>
      obtain ⟨found, foundIs⟩ := Option.ne_none_iff_exists'.mp hit
      have place : leading - count + 1 = leading - 16 := by omega
      refine ⟨count, found, Nat.le_refl _, by omega, place ▸ foundIs, ?_⟩
      rw [firstOnGrid, place, foundIs]
  | succ fuel inductionHypothesis =>
      rw [firstOnGrid]
      split
      · next found foundIs => exact ⟨count, found, Nat.le_refl _, by omega, foundIs, rfl⟩
      · obtain ⟨places, found, later, others⟩ :=
          inductionHypothesis (show count + 1 + fuel = 17 by omega)
        exact ⟨places, found, by omega, others⟩

theorem units_pos {number : Binary64} (nonzero : number.magnitude ≠ 0) : 0 < number.units :=
  Nat.mul_pos (significand_pos nonzero) (Nat.pow_pos (by decide))

theorem log2_units_lt {number : Binary64} (finite : number.IsFinite)
    (nonzero : number.magnitude ≠ 0) : number.units.log2 < 2098 := by
  have exponent : number.unitExponent ≤ 2045 := by
    unfold IsFinite infiniteMagnitude at finite
    unfold unitExponent exponentField
    simp only [Nat.pow_eq] at finite ⊢
    omega
  have fits : number.units < 2 ^ (53 + number.unitExponent) := by
    rw [Nat.pow_add]
    exact Nat.mul_lt_mul_of_pos_right (significand_lt number) (Nat.two_pow_pos _)
  have bits := (Nat.log2_lt (Nat.ne_of_gt (units_pos nonzero))).mpr fits
  omega

theorem onGrid_ne_none (tie : Tie) {number : Binary64} (nonzero : number.magnitude ≠ 0)
    {leading : Int} (low : gridStep leading ≤ number.units) :
    onGrid tie number (leading - 16) ≠ none := by
  have fine := gridStep_add (leading - 16) 16
  rw [Nat.cast_ofNat, Int.sub_add_cancel] at fine
  rw [fine] at low
  obtain ⟨below, belowLow, belowHigh, found | missed⟩ := onGrid_cases tie number (leading - 16)
  · obtain ⟨digits, -, foundIs, -⟩ := found
    rw [foundIs]
    exact Option.some_ne_none _
  · rw [Nat.cast_succ] at belowHigh missed
    obtain inside | inside := inside_of_fine nonzero low belowLow belowHigh
    · exact absurd inside missed.2.1
    · exact absurd inside missed.2.2

/-- What is found on the grid with some places has at most this many digits, or is the power of ten
that follows; and it lies in the rounding interval. -/
theorem digits_of_onGrid {tie : Tie} {number : Binary64} {leading : Int} {places : Nat}
    {found : Decimal} (low : gridStep leading ≤ number.units)
    (high : number.units < gridStep (leading + 1)) (nonempty : 1 ≤ places)
    (foundIs : onGrid tie number (leading - places + 1) = some found) :
    found.digits ≠ 0 ∧ found.digits ≤ 10 ^ places ∧
      number.interval.Contains (found.value * unitsPerOne) := by
  obtain ⟨below, belowLow, belowHigh, hit | missed⟩ :=
    onGrid_cases tie number (leading - places + 1)
  · obtain ⟨digits, neighbour, digitsIs, contains⟩ := hit
    cases foundIs.symm.trans digitsIs
    have stepPositive := gridStep_pos (leading - places + 1)
    have first : gridStep leading = 10 ^ (places - 1) * gridStep (leading - places + 1) := by
      rw [← gridStep_add]
      congr 1
      omega
    have next : gridStep (leading + 1) = 10 ^ places * gridStep (leading - places + 1) := by
      rw [← gridStep_add]
      congr 1
      omega
    rw [first] at low
    rw [next] at high
    have positive : 10 ^ (places - 1) < below + 1 := by
      have order := lt_of_mul_lt_mul_right (lt_of_le_of_lt low belowHigh) stepPositive.le
      exact_mod_cast order
    have few : below < 10 ^ places := by
      have order := lt_of_mul_lt_mul_right (lt_of_le_of_lt belowLow high) stepPositive.le
      exact_mod_cast order
    have many : 0 < 10 ^ (places - 1) := Nat.pow_pos (by decide)
    refine ⟨by simp only; omega, by simp only; omega, ?_⟩
    rw [Decimal.value, mul_assoc]
    exact contains
  · rw [missed.1] at foundIs
    contradiction

/-- The shortest decimal of a finite number other than zero has at most seventeen digits, and it
lies in the rounding interval. -/
theorem exists_shortest (tie : Tie) {number : Binary64} (finite : number.IsFinite)
    (nonzero : number.magnitude ≠ 0) :
    ∃ found : Decimal, number.shortest tie = found.normalize 20 ∧
      found.digits ≠ 0 ∧ found.digits ≤ 10 ^ 17 ∧
      number.interval.Contains (found.value * unitsPerOne) := by
  obtain ⟨low, high⟩ := decimalExponent_spec (units_pos nonzero) (log2_units_lt finite nonzero)
  have hit := onGrid_ne_none tie nonzero low
  obtain ⟨places, found, nonempty, atMost, foundIs, result⟩ :=
    exists_firstOnGrid tie number _ hit 16 (show 1 + 16 = 17 from rfl)
  obtain ⟨digits, few, contains⟩ := digits_of_onGrid low high nonempty foundIs
  have notZero : number.isZero = false := beq_eq_false_iff_ne.mpr nonzero
  rw [shortest, notZero]
  exact ⟨found, result, digits, few.trans (Nat.pow_le_pow_right (by decide) atMost), contains⟩

/-- The magnitude of the largest finite number. -/
def largestMagnitude : Nat :=
  infiniteMagnitude - 1

theorem shortest_largest {number : Binary64} (largest : number.magnitude = largestMagnitude) :
    number.shortest .even = ⟨17976931348623157, (292 : Nat)⟩ := by
  have words : ∀ negative,
      (ofMagnitude negative largestMagnitude).shortest .even =
        ⟨17976931348623157, (292 : Nat)⟩ := by
    decide +kernel
  rw [← number.ofMagnitude_parts, largest]
  exact words _

/-- The shortest decimal of a finite number is at most the largest finite number.  Half a step above
a smaller number lies below the largest one; the largest one itself is rounded down. -/
theorem shortest_le_largest {number : Binary64} (finite : number.IsFinite)
    (nonzero : number.magnitude ≠ 0) :
    (number.shortest .even).value * unitsPerOne ≤ unitsAt largestMagnitude := by
  by_cases largest : number.magnitude = largestMagnitude
  · have below : 17976931348623157 * 10 ^ 292 * unitsPerOne ≤ unitsAt largestMagnitude := by
      decide +kernel
    rw [shortest_largest largest, Decimal.value_ofNat, ← Nat.cast_mul]
    exact Nat.cast_le.mpr below
  · obtain ⟨found, shortestIs, -, -, -, high⟩ := exists_shortest .even finite nonzero
    have next : number.magnitude + 1 ≤ largestMagnitude := by
      unfold IsFinite at finite
      unfold largestMagnitude at largest ⊢
      omega
    have step : number.units + 2 ^ number.unitExponent ≤ unitsAt largestMagnitude := by
      have succ : unitsAt (number.magnitude + 1) =
          unitsAt number.magnitude + 2 ^ number.unitExponent :=
        unitsAt_succ number.magnitude
      rw [units_eq_unitsAt, ← succ]
      exact unitsAt_mono next
    have cast : (number.units : ℚ) + 2 ^ number.unitExponent ≤ unitsAt largestMagnitude := by
      exact_mod_cast step
    have positive : (0 : ℚ) < 2 ^ number.unitExponent := by positivity
    rw [shortestIs, Decimal.value_normalize]
    rw [(interval_ends nonzero).2] at high
    linarith

theorem ten_pow_le_digits {number : Decimal} (nonzero : number.digits ≠ 0) :
    10 ^ (number.digitChars.length - 1) ≤ number.digits := by
  by_cases single : number.digitChars.length - 1 = 0
  · rw [single]
    exact Nat.pos_of_ne_zero nonzero
  · have tooShort : ¬number.digitChars.length ≤ number.digitChars.length - 1 := by omega
    refine Nat.not_lt.mp fun smaller => tooShort ?_
    exact (Nat.length_toDigits_le_iff (by decide) (Nat.pos_of_ne_zero single)).mpr smaller

theorem gridStep_leadingExponent_le {number : Decimal} (nonzero : number.digits ≠ 0) :
    gridStep number.leadingExponent ≤ number.value * unitsPerOne := by
  have digits : (10 : ℚ) ^ (number.digitChars.length - 1) ≤ number.digits := by
    exact_mod_cast ten_pow_le_digits nonzero
  refine mul_le_mul_of_nonneg_right ?_ (Nat.cast_nonneg _)
  rw [Decimal.leadingExponent, Decimal.value, zpow_add₀ (by norm_num), zpow_natCast, mul_comm]
  exact mul_le_mul_of_nonneg_right digits (by positivity)

theorem leadingExponent_le {number : Decimal} (nonzero : number.digits ≠ 0)
    (bounded : number.value * unitsPerOne ≤ unitsAt largestMagnitude) :
    number.leadingExponent ≤ 308 := by
  have tooMuch : powerAtMost 309 (unitsAt largestMagnitude) = false := by decide +kernel
  rw [Bool.eq_false_iff, ne_eq, powerAtMost_iff, not_le] at tooMuch
  have below := lt_of_le_of_lt (le_trans (gridStep_leadingExponent_le nonzero) bounded) tooMuch
  have powers : (10 : ℚ) ^ number.leadingExponent < 10 ^ (309 : Int) :=
    lt_of_mul_lt_mul_right below (Nat.cast_nonneg _)
  have exponents := (zpow_lt_zpow_iff_right₀ (by norm_num)).mp powers
  omega

end Binary64

end Circuitry

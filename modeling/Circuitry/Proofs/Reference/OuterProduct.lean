import Circuitry.Proofs.Catalogue.Power
import Circuitry.Proofs.Reference.DefaultRules

/-!
# The units of outer products

An outer product has as many units as a power says.  A power of a base of at least two outgrows a
word long before its exponent does, so there the number is given exactly when it fits.  The powers
of zero and one always fit, but they are given only for an exponent of 32 bits.
-/

namespace Circuitry

namespace KroneckerLayer

/-- The number of units, computed without bounds. -/
def exactUnits (layer : KroneckerLayer) : Nat :=
  layer.inputUnits.toNat ^ layer.arity.toNat

/-- The base grows, or the arity has 32 bits. -/
def Regular (layer : KroneckerLayer) : Prop :=
  2 ≤ layer.inputUnits.toNat ∨ layer.arity.toNat < 2 ^ 32

instance (layer : KroneckerLayer) : Decidable layer.Regular :=
  inferInstanceAs (Decidable (_ ∨ _))

theorem le_exactUnits {layer : KroneckerLayer} (grows : 2 ≤ layer.inputUnits.toNat)
    (large : 2 ^ 32 ≤ layer.arity.toNat) : 2 ^ 64 ≤ layer.exactUnits :=
  calc 2 ^ 64 ≤ layer.inputUnits.toNat ^ 64 := Nat.pow_le_pow_left grows 64
    _ ≤ layer.exactUnits := Nat.pow_le_pow_right (by omega) (by omega)

theorem exactUnits_le_one {layer : KroneckerLayer} (irregular : ¬ layer.Regular) :
    layer.exactUnits ≤ 1 := by
  obtain ⟨small, -⟩ := not_or.mp irregular
  calc layer.exactUnits ≤ 1 ^ layer.arity.toNat := Nat.pow_le_pow_left (by omega) _
    _ = 1 := Nat.one_pow _

theorem outputUnits?_of_regular {layer : KroneckerLayer} (regular : layer.Regular) :
    layer.outputUnits? = wordOf? layer.exactUnits := by
  unfold outputUnits?
  rw [wordPower?_eq]
  by_cases few : layer.arity.toNat < 2 ^ 32
  · exact if_pos few
  · have large := Nat.not_lt.mp few
    rw [if_neg few, wordOf?_of_le (le_exactUnits (regular.resolve_right few) large)]

theorem outputUnits?_of_not_regular {layer : KroneckerLayer} (irregular : ¬ layer.Regular) :
    layer.outputUnits? = none := by
  obtain ⟨-, large⟩ := not_or.mp irregular
  unfold outputUnits?
  rw [wordPower?_eq, if_neg large]

end KroneckerLayer

namespace Reference

def outerProductRule : DefaultRule .layer :=
  ⟨.kroneckerLayer, LayerOp.ofKronecker⟩

/-- Take an outer product whose base is at least two or whose arity has 32 bits.  The number of
units is the power, computed without bounds, when this fits a word, and none otherwise; so compiling
the layer by the default rule records the power or fails with the overflow.  Any other outer product
has at most one unit, but none is given, and compiling it fails with an overflow too. -/
theorem outerProduct_units (layer : KroneckerLayer) {session : Session Kind target}
    (held : outerProductRule.HeldBy session.compiler.rules) (depth : Nat) :
    (layer.Regular ∧ layer.exactUnits < 2 ^ 64 →
      ∃ units : UInt64, units.toNat = layer.exactUnits ∧ layer.outputUnits? = some units ∧
        session.perform backend (depth + 1)
            (Script.compileNode .layer ⟨.kroneckerLayer, layer⟩) =
          some (.ok (LayerOp.kronecker layer.inputUnits units layer.arity),
            session.report [.compiling .layer .kroneckerLayer])) ∧
    (¬ (layer.Regular ∧ layer.exactUnits < 2 ^ 64) →
      layer.outputUnits? = none ∧
        session.perform backend (depth + 1)
            (Script.compileNode .layer ⟨.kroneckerLayer, layer⟩) =
          some (.error (.pipeline (Fault.unitsOverflow layer.inputUnits layer.arity).message),
            session.report [.compiling .layer .kroneckerLayer])) ∧
    (¬ layer.Regular → layer.exactUnits ≤ 1) := by
  have performed := DefaultRule.perform_compileNode held layer depth
  have outcome : outerProductRule.outcome layer =
      (LayerOp.ofKronecker layer).mapError fun fault => .pipeline fault.message := rfl
  rw [outcome] at performed
  unfold LayerOp.ofKronecker at performed
  refine ⟨?_, ?_, KroneckerLayer.exactUnits_le_one⟩
  · rintro ⟨regular, fits⟩
    have units : layer.outputUnits? = some (UInt64.ofNat layer.exactUnits) := by
      rw [KroneckerLayer.outputUnits?_of_regular regular, wordOf?_of_lt fits]
    rw [units] at performed
    exact ⟨_, toNat_ofNat_of_lt fits, units, performed⟩
  · intro unfit
    have units : layer.outputUnits? = none := by
      by_cases regular : layer.Regular
      · have large := Nat.not_lt.mp fun fits => unfit ⟨regular, fits⟩
        rw [KroneckerLayer.outputUnits?_of_regular regular, wordOf?_of_le large]
      · exact KroneckerLayer.outputUnits?_of_not_regular regular
    rw [units] at performed
    exact ⟨units, performed⟩

/-- Three units to the power of four are 81, two to the power of 64 do not fit, and one to the power
of two to the 32 is refused. -/
theorem outerProduct_units_default :
    ∃ session : Session Kind target, outerProductRule.HeldBy session.compiler.rules ∧
      (∃ units : UInt64, units.toNat = 81 ∧
        session.perform backend 1
            (Script.compileNode .layer ⟨.kroneckerLayer, (⟨3, 4⟩ : KroneckerLayer)⟩) =
          some (.ok (LayerOp.kronecker 3 units 4),
            session.report [.compiling .layer .kroneckerLayer])) ∧
      (⟨2, 64⟩ : KroneckerLayer).outputUnits? = none ∧
      (⟨1, 0x100000000⟩ : KroneckerLayer).outputUnits? = none := by
  let session : Session Kind target :=
    ⟨⟨({} : State), defaultRulebook .reject, .empty, .empty⟩, #[], {}, []⟩
  have held : outerProductRule.HeldBy session.compiler.rules := rfl
  obtain ⟨given, -, -⟩ := outerProduct_units ⟨3, 4⟩ held 0
  obtain ⟨units, exact, -, performed⟩ := given (by decide)
  obtain ⟨-, overflows, -⟩ := outerProduct_units ⟨2, 64⟩ held 0
  obtain ⟨-, refused, -⟩ := outerProduct_units ⟨1, 0x100000000⟩ held 0
  refine ⟨session, held, ⟨units, exact, performed⟩, (overflows ?_).1, (refused ?_).1⟩
  · exact fun fits => absurd fits.2 (by decide)
  · exact fun fits => absurd fits.1 (by decide)

/-- The number of units is not always the power when this fits a word: one to the power of two to
the 32 is one. -/
theorem not_outerProduct_units :
    ¬∀ layer : KroneckerLayer,
      layer.outputUnits?.map UInt64.toNat =
        if layer.exactUnits < 2 ^ 64 then some layer.exactUnits else none := by
  intro all
  have units : (⟨1, 0x100000000⟩ : KroneckerLayer).outputUnits? = none :=
    KroneckerLayer.outputUnits?_of_not_regular (by decide)
  have exact : (⟨1, 0x100000000⟩ : KroneckerLayer).exactUnits = 1 := by
    unfold KroneckerLayer.exactUnits
    rw [UInt64.toNat_one, Nat.one_pow]
  have same := all ⟨1, 0x100000000⟩
  rw [units, exact, if_pos (by decide)] at same
  cases same

end Reference

end Circuitry

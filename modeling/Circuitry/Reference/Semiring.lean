import Circuitry.Flag.Basic

/-!
The semirings in which a program can be evaluated, and the flags of the reference pipeline.
-/

namespace Circuitry.Reference

/-- A semiring for evaluating a program. -/
inductive Semiring
  | sumProduct
  | lseSum
  | complexLseSum
  deriving DecidableEq, Repr

namespace Semiring

/-- The semiring when no flag names one. -/
def default : Semiring := lseSum

/-- The name of a semiring. -/
def label : Semiring → String
  | sumProduct => "sum-product"
  | lseSum => "lse-sum"
  | complexLseSum => "complex-lse-sum"

/-- The flag that names the semiring. -/
def flagName : String := "semiring"

/-- The semiring of a name. -/
def ofLabel (text : String) : Except FlagError Semiring :=
  if text = sumProduct.label then .ok sumProduct
  else if text = lseSum.label then .ok lseSum
  else if text = complexLseSum.label then .ok complexLseSum
  else
    .error (.rejected flagName
      ("unknown semiring `" ++ text
        ++ "` (expected sum-product, lse-sum or complex-lse-sum)"))

end Semiring

/-- The flags that the pipeline understands. -/
structure Options where
  semiring : Semiring
  /-- Whether layers that no output depends on are left out. -/
  prune : Bool
  deriving DecidableEq, Repr

namespace Options

/-- The flag that says whether to leave out layers that no output depends on. -/
def pruneFlagName : String := "prune_unreachable"

/-- Reads the options from flags, the semiring first. -/
def ofFlags (flags : Flags) : Except FlagError Options := do
  let name ← flags.textOr Semiring.flagName Semiring.default.label
  let semiring ← Semiring.ofLabel name
  let prune ← flags.boolOr pruneFlagName true
  return ⟨semiring, prune⟩

end Options

end Circuitry.Reference

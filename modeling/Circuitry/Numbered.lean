/-!
Compiled circuits as values with the number that their compiler gave them.

They are compared by number.  The origin tells the compilers apart, which the comparison does not.
-/

namespace Circuitry

/-- A value with a number of some origin. -/
structure Numbered (α : Type) where
  origin : Nat
  number : Nat
  content : α

namespace Numbered

variable {α : Type}

instance : BEq (Numbered α) where
  beq left right := left.number == right.number

theorem beq_iff (left right : Numbered α) :
    (left == right) = true ↔ left.number = right.number := by
  change (left.number == right.number) = true ↔ left.number = right.number
  exact beq_iff_eq

instance : EquivBEq (Numbered α) where
  rfl := by
    intro value
    exact (beq_iff value value).mpr rfl
  symm := by
    intro left right equal
    exact (beq_iff right left).mpr ((beq_iff left right).mp equal).symm
  trans := by
    intro first second third equal equalNext
    exact (beq_iff first third).mpr
      (((beq_iff first second).mp equal).trans ((beq_iff second third).mp equalNext))

/-- Whether two values are the same value of the same origin. -/
def isSame (left right : Numbered α) : Bool :=
  left.origin == right.origin && left.number == right.number

end Numbered

end Circuitry

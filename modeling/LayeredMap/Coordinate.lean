/-!
# Coordinates

What boxes and per-axis transforms need of a number. The doubles are the
instance that runs. The rationals are a second one, exact and without NaN or
infinities, so that an identity which rounding spoils can still be stated of
the same definitions. The class carries no laws.
-/
namespace LayeredMap

class Coordinate (α : Type) extends Add α, Sub α, Mul α, Div α, Neg α, LE α, BEq α,
    Zero α, One α where
  decLE : DecidableLE α
  isFinite : α → Bool

namespace Coordinate

variable {α : Type} [Coordinate α]

instance (x y : α) : Decidable (x ≤ y) := Coordinate.decLE x y

/-- NaN alone is not below itself. -/
def isNaN (x : α) : Bool := !decide (x ≤ x)

/-- The smaller of two numbers, and the other one if one of them is NaN. -/
def lower (x y : α) : α := if x ≤ y ∨ isNaN y then x else y

/-- The larger of two numbers, and the other one if one of them is NaN. -/
def upper (x y : α) : α := if y ≤ x ∨ isNaN y then x else y

end Coordinate

instance : Coordinate Float where
  zero := 0.0
  one := 1.0
  decLE := inferInstance
  isFinite := Float.isFinite

instance : Coordinate Rat where
  zero := 0
  one := 1
  decLE := inferInstance
  isFinite _ := true

end LayeredMap

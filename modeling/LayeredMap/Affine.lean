import LayeredMap.Extent

/-!
# Per-axis affine transforms

Each axis is scaled and then shifted. A negative scale exchanges the two ends
of an axis, so applying a transform sorts the corners again.
-/
namespace LayeredMap

structure Affine (α : Type) where
  scaleX : α
  offsetX : α
  scaleY : α
  offsetY : α
  deriving BEq, DecidableEq

namespace Affine

variable {α : Type} [Coordinate α]

def scaling (x y : α) : Affine α := ⟨x, 0, y, 0⟩

def shifting (x y : α) : Affine α := ⟨1, x, 1, y⟩

/-- There is an inverse unless an axis is scaled by zero. -/
def inverse (t : Affine α) : Option (Affine α) :=
  if t.scaleX == 0 || t.scaleY == 0 then none
  else
    some
      { scaleX := 1 / t.scaleX, offsetX := -t.offsetX / t.scaleX
        scaleY := 1 / t.scaleY, offsetY := -t.offsetY / t.scaleY }

def apply (t : Affine α) (e : Extent α) : Extent α :=
  .spanning (e.minX * t.scaleX + t.offsetX) (e.minY * t.scaleY + t.offsetY)
    (e.maxX * t.scaleX + t.offsetX) (e.maxY * t.scaleY + t.offsetY)

end Affine
end LayeredMap

import LayeredMap.Coordinate

/-!
# Axis-aligned boxes

A box is four plain numbers and may be inverted or hold NaN. Such a box is
null: it covers nothing and is neutral for `union`. A box is empty if it is
null or unbounded; a single point is neither.
-/
namespace LayeredMap

structure Extent (α : Type) where
  minX : α
  minY : α
  maxX : α
  maxY : α
  deriving BEq, DecidableEq

namespace Extent

variable {α : Type} [Coordinate α]

/-- The box written when nothing is covered. -/
def null : Extent α := ⟨0, 0, -1, -1⟩

instance : Inhabited (Extent α) := ⟨null⟩

/-- The box between two opposite corners, given in any order; null if a coordinate is NaN. -/
def spanning (x₁ y₁ x₂ y₂ : α) : Extent α :=
  if [x₁, y₁, x₂, y₂].any Coordinate.isNaN then null
  else
    { minX := Coordinate.lower x₁ x₂, minY := Coordinate.lower y₁ y₂
      maxX := Coordinate.upper x₁ x₂, maxY := Coordinate.upper y₁ y₂ }

def isNull (e : Extent α) : Bool := !(e.minX ≤ e.maxX && e.minY ≤ e.maxY)

def isBounded (e : Extent α) : Bool :=
  [e.minX, e.minY, e.maxX, e.maxY].all Coordinate.isFinite

def isEmpty (e : Extent α) : Bool := e.isNull || !e.isBounded

def width (e : Extent α) : α := if e.isNull then 0 else e.maxX - e.minX

def height (e : Extent α) : α := if e.isNull then 0 else e.maxY - e.minY

/-- The smallest box over both. A null operand leaves the other as it is. -/
def union (a b : Extent α) : Extent α :=
  if b.isNull then a
  else if a.isNull then b
  else
    { minX := Coordinate.lower a.minX b.minX, minY := Coordinate.lower a.minY b.minY
      maxX := Coordinate.upper a.maxX b.maxX, maxY := Coordinate.upper a.maxY b.maxY }

/-- Null boxes contain nothing and lie in nothing. -/
def contains (a b : Extent α) : Bool :=
  !a.isNull && !b.isNull
    && a.minX ≤ b.minX && b.maxX ≤ a.maxX && a.minY ≤ b.minY && b.maxY ≤ a.maxY

@[simp] theorem union_of_right_null {a b : Extent α} (h : b.isNull = true) : a.union b = a := by
  simp [union, h]

theorem union_of_left_null {a b : Extent α} (ha : a.isNull = true) (hb : b.isNull = false) :
    a.union b = b := by
  simp [union, ha, hb]

end Extent

end LayeredMap

import LayeredMap.Affine
import LayeredMap.Proofs.Order

/-!
# Proper boxes

A box is proper if its four numbers are finite and in order on both axes, which
is what it means for it not to be empty. Proper boxes stay proper under union.
Spanning sorts its corners, so what it yields is in order unless NaN is among
them, and proper exactly if all of them are finite.
-/

namespace LayeredMap

variable {α : Type} [Coordinate α]

namespace Coordinate

theorem isNaN_eq_false_iff {x : α} : isNaN x = false ↔ x ≤ x := by
  simp [isNaN]

theorem lower_eq_or (x y : α) : lower x y = x ∨ lower x y = y := by
  rw [lower]
  split
  · exact .inl rfl
  · exact .inr rfl

theorem upper_eq_or (x y : α) : upper x y = x ∨ upper x y = y := by
  rw [upper]
  split
  · exact .inl rfl
  · exact .inr rfl

theorem isFinite_lower {x y : α} (hx : isFinite x = true) (hy : isFinite y = true) :
    isFinite (lower x y) = true := by
  rcases lower_eq_or x y with eq | eq <;> rw [eq] <;> assumption

theorem isFinite_upper {x y : α} (hx : isFinite x = true) (hy : isFinite y = true) :
    isFinite (upper x y) = true := by
  rcases upper_eq_or x y with eq | eq <;> rw [eq] <;> assumption

variable [Lawful α] {x y : α}

/-- What is below one of two numbers, neither of them NaN. -/
theorem lower_le (hx : x ≤ x) (hy : y ≤ y) : lower x y ≤ x ∧ lower x y ≤ y := by
  have number : isNaN y = false := isNaN_eq_false_iff.mpr hy
  by_cases below : x ≤ y
  · rw [lower, if_pos (.inl below)]
    exact ⟨hx, below⟩
  · have above : y ≤ x := (Lawful.le_total hx hy).resolve_left below
    have other : ¬ (x ≤ y ∨ isNaN y = true) := by simp [below, number]
    rw [lower, if_neg other]
    exact ⟨above, hy⟩

theorem le_upper (hx : x ≤ x) (hy : y ≤ y) : x ≤ upper x y ∧ y ≤ upper x y := by
  have number : isNaN y = false := isNaN_eq_false_iff.mpr hy
  by_cases above : y ≤ x
  · rw [upper, if_pos (.inl above)]
    exact ⟨hx, above⟩
  · have below : x ≤ y := (Lawful.le_total hx hy).resolve_right above
    have other : ¬ (y ≤ x ∨ isNaN y = true) := by simp [above, number]
    rw [upper, if_neg other]
    exact ⟨below, hy⟩

theorem lower_le_upper (hx : x ≤ x) (hy : y ≤ y) : lower x y ≤ upper x y :=
  Lawful.le_trans (lower_le hx hy).1 (le_upper hx hy).1

/-- Both of two numbers lie between the lower and the upper one. -/
theorem isFinite_of_lower_upper (hx : x ≤ x) (hy : y ≤ y) (lower : isFinite (lower x y) = true)
    (upper : isFinite (upper x y) = true) : isFinite x = true ∧ isFinite y = true := by
  obtain ⟨above_x, above_y⟩ := lower_le hx hy
  obtain ⟨below_x, below_y⟩ := le_upper hx hy
  exact ⟨Lawful.isFinite_of_between above_x below_x lower upper,
    Lawful.isFinite_of_between above_y below_y lower upper⟩

end Coordinate

namespace Extent

open Coordinate

/-- Four finite numbers, in order on both axes. -/
structure Proper (e : Extent α) : Prop where
  minX_finite : isFinite e.minX = true
  minY_finite : isFinite e.minY = true
  maxX_finite : isFinite e.maxX = true
  maxY_finite : isFinite e.maxY = true
  x_ordered : e.minX ≤ e.maxX
  y_ordered : e.minY ≤ e.maxY

variable {a b e : Extent α}

theorem isNull_eq_false_iff : e.isNull = false ↔ e.minX ≤ e.maxX ∧ e.minY ≤ e.maxY := by
  simp [isNull]

theorem isBounded_iff : e.isBounded = true ↔ isFinite e.minX = true ∧ isFinite e.minY = true ∧
    isFinite e.maxX = true ∧ isFinite e.maxY = true := by
  simp [isBounded]

theorem isEmpty_eq_false_iff : e.isEmpty = false ↔ e.Proper := by
  have split : e.isEmpty = false ↔ e.isNull = false ∧ e.isBounded = true := by
    simp [isEmpty]
  rw [split, isNull_eq_false_iff, isBounded_iff]
  constructor
  · rintro ⟨⟨hx, hy⟩, h₁, h₂, h₃, h₄⟩
    exact ⟨h₁, h₂, h₃, h₄, hx, hy⟩
  · intro proper
    exact ⟨⟨proper.x_ordered, proper.y_ordered⟩, proper.minX_finite, proper.minY_finite,
      proper.maxX_finite, proper.maxY_finite⟩

theorem Proper.isNull_eq_false (h : e.Proper) : e.isNull = false :=
  isNull_eq_false_iff.mpr ⟨h.x_ordered, h.y_ordered⟩

theorem Proper.union_eq (ha : a.Proper) (hb : b.Proper) : a.union b =
    { minX := lower a.minX b.minX, minY := lower a.minY b.minY
      maxX := upper a.maxX b.maxX, maxY := upper a.maxY b.maxY } := by
  simp [Extent.union, ha.isNull_eq_false, hb.isNull_eq_false]

/-! ## Spanning and union -/

variable {x₁ y₁ x₂ y₂ : α}

theorem self_le_of_no_nan {xs : List α} (h : ¬ ∃ x ∈ xs, isNaN x = true) : ∀ x ∈ xs, x ≤ x := by
  intro x hx
  exact isNaN_eq_false_iff.mp (Bool.eq_false_iff.mpr fun nan => h ⟨x, hx, nan⟩)

theorem spanning_of_nan (h : ∃ x ∈ [x₁, y₁, x₂, y₂], isNaN x = true) :
    spanning x₁ y₁ x₂ y₂ = null := by
  rw [spanning, if_pos (List.any_eq_true.mpr h)]

theorem spanning_of_numbers (h : ∀ x ∈ [x₁, y₁, x₂, y₂], x ≤ x) :
    spanning x₁ y₁ x₂ y₂ =
      { minX := lower x₁ x₂, minY := lower y₁ y₂, maxX := upper x₁ x₂, maxY := upper y₁ y₂ } := by
  have numbers : [x₁, y₁, x₂, y₂].any isNaN = false :=
    List.any_eq_false.mpr fun x hx => Bool.eq_false_iff.mp (isNaN_eq_false_iff.mpr (h x hx))
  rw [spanning, numbers, if_neg Bool.false_ne_true]

variable [Lawful α]

theorem isNull_null : (null : Extent α).isNull = true := by
  have inverted : ¬ ((0 : α) ≤ -1) := Lawful.not_zero_le_neg_one
  simp [isNull, null, inverted]

theorem not_proper_null : ¬ (null : Extent α).Proper := by
  intro proper
  exact Bool.false_ne_true (proper.isNull_eq_false.symm.trans isNull_null)

/-- The ends of an axis of the union, in order because they were in order before. -/
theorem lower_le_upper_of_le {x x' y y' : α} (h : x ≤ x') (h' : y ≤ y') :
    lower x y ≤ upper x' y' := by
  obtain ⟨hx, hx'⟩ := Lawful.self_le_of_le h
  obtain ⟨hy, hy'⟩ := Lawful.self_le_of_le h'
  exact Lawful.le_trans (Lawful.le_trans (lower_le hx hy).1 h) (le_upper hx' hy').1

theorem Proper.union (ha : a.Proper) (hb : b.Proper) : (a.union b).Proper := by
  rw [ha.union_eq hb]
  exact
    { minX_finite := isFinite_lower ha.minX_finite hb.minX_finite
      minY_finite := isFinite_lower ha.minY_finite hb.minY_finite
      maxX_finite := isFinite_upper ha.maxX_finite hb.maxX_finite
      maxY_finite := isFinite_upper ha.maxY_finite hb.maxY_finite
      x_ordered := lower_le_upper_of_le ha.x_ordered hb.x_ordered
      y_ordered := lower_le_upper_of_le ha.y_ordered hb.y_ordered }

/-- Nothing but NaN among its corners makes a spanned box null. -/
theorem isNull_spanning :
    (spanning x₁ y₁ x₂ y₂).isNull = true ↔ ∃ x ∈ [x₁, y₁, x₂, y₂], isNaN x = true := by
  by_cases nan : ∃ x ∈ [x₁, y₁, x₂, y₂], isNaN x = true
  · rw [spanning_of_nan nan]
    exact ⟨fun _ => nan, fun _ => isNull_null⟩
  · have numbers := self_le_of_no_nan nan
    have ordered : (spanning x₁ y₁ x₂ y₂).isNull = false := by
      rw [spanning_of_numbers numbers, isNull_eq_false_iff]
      constructor
      · exact lower_le_upper (numbers x₁ (by simp)) (numbers x₂ (by simp))
      · exact lower_le_upper (numbers y₁ (by simp)) (numbers y₂ (by simp))
    constructor
    · intro null
      exact absurd (ordered.symm.trans null) Bool.false_ne_true
    · intro some_nan
      exact absurd some_nan nan

theorem proper_spanning_iff :
    (spanning x₁ y₁ x₂ y₂).Proper ↔ ∀ x ∈ [x₁, y₁, x₂, y₂], isFinite x = true := by
  constructor
  · intro proper
    have no_nan : ¬ ∃ x ∈ [x₁, y₁, x₂, y₂], isNaN x = true := by
      intro nan
      exact Bool.false_ne_true (proper.isNull_eq_false.symm.trans (isNull_spanning.mpr nan))
    have numbers := self_le_of_no_nan no_nan
    rw [spanning_of_numbers numbers] at proper
    obtain ⟨hx₁, hx₂⟩ := isFinite_of_lower_upper (numbers x₁ (by simp)) (numbers x₂ (by simp))
      proper.minX_finite proper.maxX_finite
    obtain ⟨hy₁, hy₂⟩ := isFinite_of_lower_upper (numbers y₁ (by simp)) (numbers y₂ (by simp))
      proper.minY_finite proper.maxY_finite
    simp [hx₁, hx₂, hy₁, hy₂]
  · intro finite
    have numbers : ∀ x ∈ [x₁, y₁, x₂, y₂], x ≤ x := fun x hx =>
      Lawful.self_le_of_isFinite (finite x hx)
    rw [spanning_of_numbers numbers]
    obtain ⟨hx₁, hy₁, hx₂, hy₂⟩ : isFinite x₁ = true ∧ isFinite y₁ = true ∧
        isFinite x₂ = true ∧ isFinite y₂ = true := by simpa using finite
    exact
      { minX_finite := isFinite_lower hx₁ hx₂
        minY_finite := isFinite_lower hy₁ hy₂
        maxX_finite := isFinite_upper hx₁ hx₂
        maxY_finite := isFinite_upper hy₁ hy₂
        x_ordered := lower_le_upper (numbers x₁ (by simp)) (numbers x₂ (by simp))
        y_ordered := lower_le_upper (numbers y₁ (by simp)) (numbers y₂ (by simp)) }

end Extent
end LayeredMap

import LayeredMap.Proofs.Arithmetic
import LayeredMap.Proofs.Inversion

/-!
# Boxes under transforms of doubles

Along an axis a transform with finite coefficients keeps finite numbers in
order or turns them all round, and makes NaN of none of them. Rounding and
overflow may bring different numbers together, but that is all they do. So a
point of a box is brought to a point of the image, and with the points go the
boxes that enclose each other and the unions.
-/

namespace LayeredMap

variable {α : Type} [Coordinate α]

namespace Coordinate

/-- Finite numbers stay in order or are all turned round, and none of them becomes NaN. -/
structure Directed (f : α → α) : Prop where
  number : ∀ {x : α}, isFinite x = true → f x ≤ f x
  direction :
    (∀ {x y : α}, isFinite x = true → isFinite y = true → x ≤ y → f x ≤ f y) ∨
      ∀ {x y : α}, isFinite x = true → isFinite y = true → x ≤ y → f y ≤ f x

/-- What is between two numbers stays between them. -/
theorem Directed.between [Lawful α] {f : α → α} (h : Directed f) {x y z : α}
    (hx : isFinite x = true) (hy : isFinite y = true) (hz : isFinite z = true)
    (above : x ≤ y) (below : y ≤ z) : lower (f x) (f z) ≤ f y ∧ f y ≤ upper (f x) (f z) := by
  obtain ⟨low, low'⟩ := lower_le (h.number hx) (h.number hz)
  obtain ⟨high, high'⟩ := le_upper (h.number hx) (h.number hz)
  rcases h.direction with upwards | downwards
  · exact ⟨Lawful.le_trans low (upwards hx hy above), Lawful.le_trans (upwards hy hz below) high'⟩
  · exact ⟨Lawful.le_trans low' (downwards hy hz below),
      Lawful.le_trans (downwards hx hy above) high⟩

end Coordinate

open Coordinate

/-! ## Points of boxes -/

namespace Extent

/-- The box of a single point. -/
def point (x y : α) : Extent α := ⟨x, y, x, y⟩

variable {a b c e : Extent α} {x y x' y' x₁ y₁ x₂ y₂ : α}

/-- The axes do not know of each other. -/
theorem Encloses.crossed (h : e.Encloses (point x y)) (h' : e.Encloses (point x' y')) :
    e.Encloses (point x y') :=
  ⟨h.left, h.right, h'.bottom, h'.top⟩

theorem isNull_point (hx : x ≤ x) (hy : y ≤ y) : (point x y).isNull = false :=
  isNull_eq_false_iff.mpr ⟨hx, hy⟩

variable [Lawful α]

theorem encloses_self (h : e.isNull = false) : e.Encloses e :=
  (contains_iff.mp (contains_self h)).2.2

theorem encloses_corners (h : e.isNull = false) :
    e.Encloses (point e.minX e.minY) ∧ e.Encloses (point e.maxX e.maxY) := by
  obtain ⟨x_ordered, y_ordered⟩ := isNull_eq_false_iff.mp h
  obtain ⟨minX, maxX, minY, maxY⟩ := numbers_of_not_null h
  exact ⟨⟨minX, x_ordered, minY, y_ordered⟩, ⟨x_ordered, maxX, y_ordered, maxY⟩⟩

omit [Lawful α] in
/-- A box spans two points as a union does. -/
theorem spanning_eq_union (numbers : ∀ x ∈ [x₁, y₁, x₂, y₂], x ≤ x) :
    spanning x₁ y₁ x₂ y₂ = (point x₁ y₁).union (point x₂ y₂) := by
  have first := isNull_point (numbers x₁ (by simp)) (numbers y₁ (by simp))
  have second := isNull_point (numbers x₂ (by simp)) (numbers y₂ (by simp))
  rw [spanning_of_numbers numbers, union_eq first second]
  rfl

/-- The box between two points is enclosed exactly by what encloses both of them. -/
theorem encloses_spanning_iff (numbers : ∀ x ∈ [x₁, y₁, x₂, y₂], x ≤ x) :
    c.Encloses (spanning x₁ y₁ x₂ y₂) ↔
      c.Encloses (point x₁ y₁) ∧ c.Encloses (point x₂ y₂) := by
  rw [spanning_eq_union numbers]
  exact encloses_union_iff (isNull_point (numbers x₁ (by simp)) (numbers y₁ (by simp)))
    (isNull_point (numbers x₂ (by simp)) (numbers y₂ (by simp)))

end Extent

/-! ## Images of boxes -/

namespace Affine

/-- Where a number of the first axis goes. -/
def onX (t : Affine α) (x : α) : α := x * t.scaleX + t.offsetX

/-- Where a number of the second axis goes. -/
def onY (t : Affine α) (y : α) : α := y * t.scaleY + t.offsetY

structure Directed (t : Affine α) : Prop where
  x : Coordinate.Directed t.onX
  y : Coordinate.Directed t.onY

theorem apply_eq_spanning (t : Affine α) (e : Extent α) : t.apply e =
    .spanning (t.onX e.minX) (t.onY e.minY) (t.onX e.maxX) (t.onY e.maxY) := rfl

namespace Directed

open Extent

variable [Lawful α] {t : Affine α} {a b c e : Extent α}

omit [Lawful α] in
theorem numbers (h : t.Directed) (proper : e.Proper) :
    ∀ x ∈ [t.onX e.minX, t.onY e.minY, t.onX e.maxX, t.onY e.maxY], x ≤ x := by
  simp only [List.forall_mem_cons, List.not_mem_nil, false_implies, implies_true, and_true]
  exact ⟨h.x.number proper.minX_finite, h.y.number proper.minY_finite,
    h.x.number proper.maxX_finite, h.y.number proper.maxY_finite⟩

theorem isNull_apply (h : t.Directed) (proper : e.Proper) : (t.apply e).isNull = false := by
  rw [Bool.eq_false_iff]
  intro null
  obtain ⟨x, image, nan⟩ := (t.isNull_apply e).mp null
  exact Bool.false_ne_true ((isNaN_eq_false_iff.mpr (h.numbers proper x image)).symm.trans nan)

theorem encloses_apply_iff (h : t.Directed) (proper : e.Proper) : c.Encloses (t.apply e) ↔
    c.Encloses (point (t.onX e.minX) (t.onY e.minY)) ∧
      c.Encloses (point (t.onX e.maxX) (t.onY e.maxY)) :=
  encloses_spanning_iff (h.numbers proper)

/-- A point of a box is brought to a point of its image. -/
theorem point_apply (h : t.Directed) (proper : e.Proper) {x y : α} (hx : isFinite x = true)
    (hy : isFinite y = true) (inside : e.Encloses (point x y)) :
    (t.apply e).Encloses (point (t.onX x) (t.onY y)) := by
  obtain ⟨left, right⟩ :=
    h.x.between proper.minX_finite hx proper.maxX_finite inside.left inside.right
  obtain ⟨bottom, top⟩ :=
    h.y.between proper.minY_finite hy proper.maxY_finite inside.bottom inside.top
  rw [apply_eq_spanning, spanning_of_numbers (h.numbers proper)]
  exact ⟨left, right, bottom, top⟩

/-- What encloses a box does so after the transform. -/
theorem encloses_apply (h : t.Directed) (ha : a.Proper) (hb : b.Proper) (outer : a.Encloses b) :
    (t.apply a).Encloses (t.apply b) := by
  obtain ⟨first, second⟩ := encloses_corners hb.isNull_eq_false
  rw [h.encloses_apply_iff hb]
  exact ⟨h.point_apply ha hb.minX_finite hb.minY_finite (outer.trans first),
    h.point_apply ha hb.maxX_finite hb.maxY_finite (outer.trans second)⟩

/-- The lower and the upper one of two numbers are among the two, so what encloses the images of two
boxes encloses that of their union. -/
theorem encloses_apply_union (h : t.Directed) (ha : a.Proper) (hb : b.Proper)
    (outer : c.Encloses (t.apply a)) (outer' : c.Encloses (t.apply b)) :
    c.Encloses (t.apply (a.union b)) := by
  obtain ⟨min, max⟩ := (h.encloses_apply_iff ha).mp outer
  obtain ⟨min', max'⟩ := (h.encloses_apply_iff hb).mp outer'
  rw [h.encloses_apply_iff (ha.union hb), ha.union_eq hb]
  constructor
  · rcases lower_eq_or a.minX b.minX with x | x <;> rcases lower_eq_or a.minY b.minY with y | y <;>
      rw [x, y]
    · exact min
    · exact min.crossed min'
    · exact min'.crossed min
    · exact min'
  · rcases upper_eq_or a.maxX b.maxX with x | x <;> rcases upper_eq_or a.maxY b.maxY with y | y <;>
      rw [x, y]
    · exact max
    · exact max.crossed max'
    · exact max'.crossed max
    · exact max'

/-- The image of a union and the union of the images enclose each other. -/
theorem apply_union (h : t.Directed) (ha : a.Proper) (hb : b.Proper) :
    (t.apply (a.union b)).Encloses ((t.apply a).union (t.apply b)) ∧
      ((t.apply a).union (t.apply b)).Encloses (t.apply (a.union b)) := by
  have both := ha.union hb
  have solid := h.isNull_apply ha
  have solid' := h.isNull_apply hb
  constructor
  · obtain ⟨outer, outer'⟩ := (encloses_union_iff ha.isNull_eq_false hb.isNull_eq_false).mp
      (encloses_self both.isNull_eq_false)
    exact (encloses_union_iff solid solid').mpr
      ⟨h.encloses_apply both ha outer, h.encloses_apply both hb outer'⟩
  · obtain ⟨outer, outer'⟩ := (encloses_union_iff solid solid').mp
      (encloses_self (isNull_union_of_not_null solid solid'))
    exact h.encloses_apply_union ha hb outer outer'

theorem contains_apply (h : t.Directed) (ha : a.Proper) (hb : b.Proper)
    (covers : a.contains b = true) : (t.apply a).contains (t.apply b) = true :=
  (h.encloses_apply ha hb (contains_iff.mp covers).2.2).contains (h.isNull_apply hb)

end Directed
end Affine

/-! ## Doubles -/

namespace Double

variable {s o : Float}

theorem number_affine (hs : s.isFinite = true) (ho : o.isFinite = true) {x : Float}
    (hx : x.isFinite = true) : x * s + o ≤ x * s + o :=
  self_le_iff.mpr (isNaN_add (gives_mul hx hs).number ho)

/-- Scaled and shifted by finite numbers, doubles go upwards or downwards by the sign of the
scale. -/
theorem directed_affine (hs : s.isFinite = true) (ho : o.isFinite = true) :
    Coordinate.Directed fun x : Float => x * s + o where
  number hx := number_affine hs ho hx
  direction := by
    have keeps {x y : Float} (hx : x.isFinite = true) (hy : y.isFinite = true)
        (below : worth x * worth s ≤ worth y * worth s) : x * s + o ≤ y * s + o :=
      add_le_add (mul_le_mul_of_worth hx hy hs below) ho
    rcases le_total 0 (worth s) with up | down
    · left
      intro x y hx hy below
      exact keeps hx hy (mul_le_mul_of_nonneg_right ((le_iff_worth_le hx hy).mp below) up)
    · right
      intro x y hx hy below
      exact keeps hy hx (mul_le_mul_of_nonpos_right ((le_iff_worth_le hx hy).mp below) down)

end Double

namespace Affine

theorem directed_of_finite {t : Affine Float}
    (finite : ∀ c ∈ [t.scaleX, t.offsetX, t.scaleY, t.offsetY], c.isFinite = true) :
    t.Directed where
  x := Double.directed_affine (finite _ (by simp)) (finite _ (by simp))
  y := Double.directed_affine (finite _ (by simp)) (finite _ (by simp))

/-- A transform of doubles with finite coefficients, each scale positive, negative or zero. The
image of the union of two boxes that are not empty is the union of their images, up to the signs of
zeros, and what contains a box contains it after the transform. No corner of an image is NaN, but
some may be infinite. -/
theorem boxes_carried (t : Affine Float)
    (finite : ∀ c ∈ [t.scaleX, t.offsetX, t.scaleY, t.offsetY], c.isFinite = true)
    (a b : Extent Float) (ha : a.isEmpty = false) (hb : b.isEmpty = false) :
    (t.apply (a.union b) == (t.apply a).union (t.apply b)) = true ∧
      (a.contains b = true → (t.apply a).contains (t.apply b) = true) := by
  have directed := directed_of_finite finite
  rw [Extent.isEmpty_eq_false_iff] at ha hb
  exact ⟨Extent.beq_iff_encloses.mpr (directed.apply_union ha hb), directed.contains_apply ha hb⟩

/-- The first axis is turned round and leaves the range of doubles at one end. The second one is
flattened, onto zeros of either sign. -/
theorem boxes_carried_overflow :
    let t : Affine Float := ⟨-1e300, 5, 0, -0.0⟩
    let a : Extent Float := ⟨-1, 1, 1e10, 2⟩
    let b : Extent Float := ⟨0, -2, 1, -1⟩
    (a.union b).contains b = true ∧ t.apply (a.union b) = ⟨-1 / 0, -0.0, 1e300, -0.0⟩ ∧
      t.apply (a.union b) ≠ (t.apply a).union (t.apply b) ∧
      (t.apply (a.union b) == (t.apply a).union (t.apply b)) = true ∧
      (t.apply (a.union b)).contains (t.apply b) = true := by
  intro t a b
  have finite : ∀ c ∈ [t.scaleX, t.offsetX, t.scaleY, t.offsetY], c.isFinite = true := by
    decide +kernel
  have ha : a.isEmpty = false := by decide +kernel
  have hb : b.isEmpty = false := by decide +kernel
  have both : (a.union b).isEmpty = false := by decide +kernel
  have covers : (a.union b).contains b = true := by decide +kernel
  obtain ⟨carried, -⟩ := boxes_carried t finite a b ha hb
  obtain ⟨-, kept⟩ := boxes_carried t finite (a.union b) b both hb
  exact ⟨covers, by decide +kernel, by decide +kernel, carried, kept covers⟩

end Affine
end LayeredMap

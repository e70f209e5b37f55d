import Mathlib.Algebra.Order.Ring.Rat
import Mathlib.Tactic.FieldSimp
import Mathlib.Tactic.Ring
import LayeredMap.Proofs.Aggregation
import LayeredMap.Proofs.Spelling

/-!
# Exact transforms

With exact numbers a transform is monotone along each axis, upwards or downwards
by the sign of the scale, and its inverse undoes it. So it carries proper boxes
over together with their unions. If both ways between two systems belong to one
transform, a footprint in either system contributes to one of them what the
transform makes of its contribution to the other, and the largest footprints in
the two systems are images of each other.
-/

namespace LayeredMap

/-! ## Along an axis -/

section Axis

variable {K L : Type} [LinearOrder K] [LinearOrder L] {f : K → L} {x x' y y' : K}

/-- The ends of two ranges together, brought over and sorted, are what the ranges come to when they
are brought over one by one. -/
theorem hull_of_monotone (mono : Monotone f) (hx : x ≤ x') (hy : y ≤ y') :
    min (f (min x y)) (f (max x' y')) = min (min (f x) (f x')) (min (f y) (f y')) ∧
      max (f (min x y)) (f (max x' y')) = max (max (f x) (f x')) (max (f y) (f y')) := by
  have ordered : min (f x) (f y) ≤ max (f x') (f y') :=
    (min_le_left _ _).trans ((mono hx).trans (le_max_left _ _))
  rw [mono.map_min, mono.map_max, min_eq_left (mono hx), min_eq_left (mono hy),
    max_eq_right (mono hx), max_eq_right (mono hy)]
  exact ⟨min_eq_left ordered, max_eq_right ordered⟩

/-- Downwards it is the same in the reversed order. -/
theorem hull_of_antitone (anti : Antitone f) (hx : x ≤ x') (hy : y ≤ y') :
    min (f (min x y)) (f (max x' y')) = min (min (f x) (f x')) (min (f y) (f y')) ∧
      max (f (min x y)) (f (max x' y')) = max (max (f x) (f x')) (max (f y) (f y')) :=
  (hull_of_monotone anti.dual_right hx hy).symm

omit [LinearOrder L] in
/-- A symmetric function does not see that its arguments were sorted. -/
theorem sorted_of_comm {g : K → K → L} (comm : ∀ x y, g x y = g y x) (x y : K) :
    g (min x y) (max x y) = g x y := by
  rcases le_total x y with below | above
  · rw [min_eq_left below, max_eq_right below]
  · rw [min_eq_right above, max_eq_left above, comm]

end Axis

/-- What a transform does along one axis. -/
def along (scale offset x : Rat) : Rat := x * scale + offset

theorem monotone_or_antitone_along (scale offset : Rat) :
    Monotone (along scale offset) ∨ Antitone (along scale offset) := by
  rcases le_total 0 scale with up | down
  · exact .inl ((monotone_mul_right_of_nonneg up).add_const offset)
  · exact .inr ((antitone_mul_right down).add_const offset)

theorem along_hull (scale offset : Rat) {x x' y y' : Rat} (hx : x ≤ x') (hy : y ≤ y') :
    let f := along scale offset
    min (f (min x y)) (f (max x' y')) = min (min (f x) (f x')) (min (f y) (f y')) ∧
      max (f (min x y)) (f (max x' y')) = max (max (f x) (f x')) (max (f y) (f y')) := by
  rcases monotone_or_antitone_along scale offset with mono | anti
  · exact hull_of_monotone mono hx hy
  · exact hull_of_antitone anti hx hy

theorem along_along {scale : Rat} (offset x : Rat) (h : scale ≠ 0) :
    along (1 / scale) (-offset / scale) (along scale offset x) = x := by
  simp only [along]
  field_simp
  ring

open Coordinate

theorem Coordinate.lower_eq_min (x y : Rat) : lower x y = min x y := by
  have number : isNaN y = false := isNaN_eq_false_iff.mpr (le_refl y)
  simp only [lower, number, Bool.false_eq_true, or_false, min_def]

theorem Coordinate.upper_eq_max (x y : Rat) : upper x y = max x y := by
  have number : isNaN y = false := isNaN_eq_false_iff.mpr (le_refl y)
  simp only [upper, number, Bool.false_eq_true, or_false, max_def']

/-- Exact numbers are all finite. -/
theorem Extent.proper_of_not_null {e : Extent Rat} (h : e.isNull = false) : e.Proper := by
  obtain ⟨x_ordered, y_ordered⟩ := isNull_eq_false_iff.mp h
  exact ⟨rfl, rfl, rfl, rfl, x_ordered, y_ordered⟩

namespace Affine

variable {m n : Affine Rat} {a b e : Extent Rat}

theorem apply_eq (m : Affine Rat) (e : Extent Rat) : m.apply e =
    { minX := min (along m.scaleX m.offsetX e.minX) (along m.scaleX m.offsetX e.maxX)
      minY := min (along m.scaleY m.offsetY e.minY) (along m.scaleY m.offsetY e.maxY)
      maxX := max (along m.scaleX m.offsetX e.minX) (along m.scaleX m.offsetX e.maxX)
      maxY := max (along m.scaleY m.offsetY e.minY) (along m.scaleY m.offsetY e.maxY) } := by
  rw [apply, Extent.spanning_of_numbers fun x _ => le_refl x]
  simp only [lower_eq_min, upper_eq_max]
  rfl

theorem proper_apply (m : Affine Rat) (e : Extent Rat) : (m.apply e).Proper :=
  Extent.proper_spanning_iff.mpr fun _ _ => rfl

/-- A transform carries unions over. -/
theorem apply_union (m : Affine Rat) (ha : a.Proper) (hb : b.Proper) :
    m.apply (a.union b) = (m.apply a).union (m.apply b) := by
  obtain ⟨minX, maxX⟩ := along_hull m.scaleX m.offsetX ha.x_ordered hb.x_ordered
  obtain ⟨minY, maxY⟩ := along_hull m.scaleY m.offsetY ha.y_ordered hb.y_ordered
  rw [(m.proper_apply a).union_eq (m.proper_apply b), ha.union_eq hb]
  simp only [apply_eq, lower_eq_min, upper_eq_max, minX, maxX, minY, maxY]

theorem inverse_eq_some_iff : m.inverse = some n ↔ m.scaleX ≠ 0 ∧ m.scaleY ≠ 0 ∧
    n = { scaleX := 1 / m.scaleX, offsetX := -m.offsetX / m.scaleX
          scaleY := 1 / m.scaleY, offsetY := -m.offsetY / m.scaleY } := by
  rw [inverse]
  by_cases flat : m.scaleX = 0 ∨ m.scaleY = 0
  · have flat' : (m.scaleX == 0 || m.scaleY == 0) = true := by simpa using flat
    rw [if_pos flat']
    tauto
  · have upright : ¬ (m.scaleX == 0 || m.scaleY == 0) = true := by simpa using flat
    rw [if_neg upright, Option.some_inj, @eq_comm _ _ n]
    tauto

theorem inverse_inverse (h : m.inverse = some n) : n.inverse = some m := by
  obtain ⟨scaleX, scaleY, rfl⟩ := inverse_eq_some_iff.mp h
  rw [inverse_eq_some_iff]
  refine ⟨one_div_ne_zero scaleX, one_div_ne_zero scaleY, ?_⟩
  have offsetX : m.offsetX = -(-m.offsetX / m.scaleX) / (1 / m.scaleX) := by field_simp
  have offsetY : m.offsetY = -(-m.offsetY / m.scaleY) / (1 / m.scaleY) := by field_simp
  rw [← offsetX, ← offsetY, one_div_one_div, one_div_one_div]

/-- An inverse brings proper boxes back. -/
theorem apply_apply_of_inverse (h : m.inverse = some n) (proper : e.Proper) :
    n.apply (m.apply e) = e := by
  obtain ⟨scaleX, scaleY, rfl⟩ := inverse_eq_some_iff.mp h
  have lower {g : Rat → Rat} (x y : Rat) := sorted_of_comm (fun x y => min_comm (g x) (g y)) x y
  have upper {g : Rat → Rat} (x y : Rat) := sorted_of_comm (fun x y => max_comm (g x) (g y)) x y
  rw [apply_eq, apply_eq m]
  simp only [lower, upper, along_along _ _ scaleX, along_along _ _ scaleY,
    min_eq_left proper.x_ordered, min_eq_left proper.y_ordered, max_eq_right proper.x_ordered,
    max_eq_right proper.y_ordered]

/-- There and back leads to where it began exactly if the box is not null, since no image is. -/
theorem apply_apply_eq_iff (h : m.inverse = some n) :
    n.apply (m.apply e) = e ↔ e.isNull = false := by
  constructor
  · intro returned
    rw [← returned]
    exact (n.proper_apply _).isNull_eq_false
  · intro solid
    exact apply_apply_of_inverse h (Extent.proper_of_not_null solid)

/-- With exact numbers a transform has an inverse exactly if it flattens neither axis. The transform
is the inverse of its inverse, and one after the other, in either order, they return exactly those
boxes that are not null. -/
theorem inverse_returns (m : Affine Rat) :
    (m.inverse.isSome = true ↔ m.scaleX ≠ 0 ∧ m.scaleY ≠ 0) ∧
      ∀ n, m.inverse = some n → n.inverse = some m ∧
        ∀ e : Extent Rat, (n.apply (m.apply e) = e ↔ e.isNull = false) ∧
          (m.apply (n.apply e) = e ↔ e.isNull = false) := by
  constructor
  · rw [Option.isSome_iff_exists]
    simp only [inverse_eq_some_iff, exists_and_left, exists_eq, and_true]
  · intro n h
    have h' : n.inverse = some m := inverse_inverse h
    exact ⟨h', fun e => ⟨apply_apply_eq_iff h, apply_apply_eq_iff h'⟩⟩

/-- One axis is turned round and the other one is not. -/
theorem inverse_returns_turned :
    let m : Affine Rat := ⟨-2, 10, 3, -1⟩
    let n : Affine Rat := ⟨-1 / 2, 5, 1 / 3, 1 / 3⟩
    let e : Extent Rat := ⟨-1, 1 / 2, 7, 1 / 2⟩
    m.inverse = some n ∧ n.inverse = some m ∧ m.apply e = ⟨-4, 1 / 2, 12, 1 / 2⟩ ∧
      n.apply (m.apply e) = e ∧ m.apply (n.apply e) = e ∧ n.apply (m.apply .null) ≠ .null := by
  intro m n e
  have inverse : m.inverse = some n := by decide +kernel
  obtain ⟨inverse', returned⟩ := (inverse_returns m).2 n inverse
  have solid : e.isNull = false := by decide +kernel
  have null : ¬ (Extent.null : Extent Rat).isNull = false := by decide +kernel
  exact ⟨inverse, inverse', by decide +kernel, (returned e).1.mpr solid, (returned e).2.mpr solid,
    fun same => null ((returned .null).1.mp same)⟩

theorem apply_foldl_union (m : Affine Rat) {es : List (Extent Rat)} (first : e.Proper)
    (others : ∀ e' ∈ es, e'.Proper) :
    (es.map m.apply).foldl .union (m.apply e) = m.apply (es.foldl .union e) := by
  induction es generalizing e with
  | nil => rfl
  | cons b es ih =>
    have next : b.Proper := others b List.mem_cons_self
    rw [List.map_cons, List.foldl_cons, List.foldl_cons, ← m.apply_union first next]
    exact ih (first.union next) fun e' he' => others e' (List.mem_cons_of_mem b he')

theorem apply_unionAll (m : Affine Rat) {es : List (Extent Rat)} (some_box : es ≠ [])
    (proper : ∀ e ∈ es, e.Proper) :
    Extent.unionAll (es.map m.apply) = m.apply (.unionAll es) := by
  cases es with
  | nil => exact absurd rfl some_box
  | cons e es =>
    exact m.apply_foldl_union (proper e List.mem_cons_self) fun e' he' =>
      proper e' (List.mem_cons_of_mem e he')

end Affine

/-! ## Between two systems -/

/-- Both ways between two systems are filed, and the way back is the inverse of the way there. -/
structure TransformTable.Paired (t : TransformTable Rat) (a b : Crs) (there back : Affine Rat) :
    Prop where
  apart : a.sameFrame b = false
  there_filed : t.find? (a.key, b.key) = some there
  back_filed : t.find? (b.key, a.key) = some back
  inverse : there.inverse = some back

namespace TransformTable.Paired

variable {t : TransformTable Rat} {a b : Crs} {there back : Affine Rat} {f : Footprint Rat}

theorem symm (h : t.Paired a b there back) : t.Paired b a back there where
  apart := (b.sameFrame_comm a).trans h.apart
  there_filed := h.back_filed
  back_filed := h.there_filed
  inverse := Affine.inverse_inverse h.inverse

/-- A transform with an inverse is paired with it as soon as it is registered. -/
theorem of_register (t : TransformTable Rat) (apart : a.sameFrame b = false)
    (h : there.inverse = some back) : (t.register a b there).Paired a b there back where
  apart := apart
  there_filed := by simp [register, h]
  back_filed := by
    have other : b.key ≠ a.key := (Crs.sameFrame_eq_false_iff.mp apart).symm
    simp [register, h, other]
  inverse := h

theorem contribution_own (t : TransformTable Rat) (own : f.crs.SameFrame a) :
    t.reprojector.contribution a f = some f.extent :=
  contribution_of_sameFrame (Crs.sameFrame_equivalence.symm own)

theorem elsewhere (h : t.Paired a b there back) (own : f.crs.SameFrame a) :
    f.crs.sameFrame b = false := by
  rw [own.sameFrame_eq (Crs.sameFrame_equivalence.refl b), h.apart]

theorem reproject_eq (h : t.Paired a b there back) (own : f.crs.SameFrame a) :
    t.reproject f b = .ok { extent := there.apply f.extent, crs := b } := by
  have kept : (there.apply f.extent).isEmpty = false :=
    Extent.isEmpty_eq_false_iff.mpr (there.proper_apply f.extent)
  refine reproject_ok_iff.mpr (.inr ⟨h.elsewhere own, there, ?_, kept, rfl⟩)
  rw [own.key_eq, h.there_filed]

theorem contribution_moved (h : t.Paired a b there back) (own : f.crs.SameFrame a) :
    t.reprojector.contribution b f = some (there.apply f.extent) := by
  rw [Reprojector.contribution, t.equivalent_reprojector, b.sameFrame_comm, h.elsewhere own,
    if_neg Bool.false_ne_true, t.reproject_reprojector, h.reproject_eq own]
  rfl

theorem exists_contribution (h : t.Paired a b there back)
    (known : f.crs.SameFrame a ∨ f.crs.SameFrame b) :
    ∃ e, t.reprojector.contribution a f = some e := by
  rcases known with own | own
  · exact ⟨_, contribution_own t own⟩
  · exact ⟨_, h.symm.contribution_moved own⟩

/-- In one of the systems a footprint adds what it adds in the other, brought over. -/
theorem contribution_eq (h : t.Paired a b there back) (proper : f.extent.Proper)
    (known : f.crs.SameFrame a ∨ f.crs.SameFrame b) :
    t.reprojector.contribution b f = (t.reprojector.contribution a f).map there.apply := by
  rcases known with own | own
  · rw [h.contribution_moved own, contribution_own t own]
    rfl
  · rw [contribution_own t own, h.symm.contribution_moved own, Option.map_some,
      Affine.apply_apply_of_inverse h.symm.inverse proper]

end TransformTable.Paired

/-- Two systems with both ways filed as each other's inverses, and layers whose usable footprints are
all in one or the other of them. If there is a usable footprint, the largest footprint in the second
system is the image of the one in the first, and the way back leads back to that one. The table
answers no differently when it is asked for the two. -/
theorem maxBounds_carried_over (t : TransformTable Rat) (a b : Crs) (there back : Affine Rat)
    (paired : t.Paired a b there back) (surveys : List (Survey Rat))
    (known : ∀ f ∈ usable (surveys.filterMap Survey.footprint?),
      f.crs.SameFrame a ∨ f.crs.SameFrame b)
    (some_usable : usable (surveys.filterMap Survey.footprint?) ≠ []) :
    ∃ g h : Footprint Rat,
      (maxBounds t.reprojector (some a) surveys).1 = some g ∧
        (maxBounds t.reprojector (some b) surveys).1 = some h ∧ g.crs = a ∧ h.crs = b ∧
        h.extent = there.apply g.extent ∧ back.apply h.extent = g.extent ∧
        t.reproject g b = .ok h ∧ t.reproject h a = .ok g := by
  have carried : t.gather b (surveys.filterMap Survey.footprint?) =
      (t.gather a (surveys.filterMap Survey.footprint?)).map there.apply := by
    rw [TransformTable.gather, TransformTable.gather, List.map_filterMap]
    refine List.filterMap_congr fun f useful => ?_
    exact paired.contribution_eq (mem_usable.mp useful).2 (known f useful)
  have some_box : t.gather a (surveys.filterMap Survey.footprint?) ≠ [] := by
    obtain ⟨f, useful⟩ := List.exists_mem_of_ne_nil _ some_usable
    obtain ⟨e, adds⟩ := paired.exists_contribution (known f useful)
    exact List.ne_nil_of_mem (List.mem_filterMap.mpr ⟨f, useful, adds⟩)
  have proper := proper_unionAll some_box proper_of_mem_gather
  refine ⟨_, _, maxBounds_preferred t a surveys, maxBounds_preferred t b surveys, rfl, rfl, ?_⟩
  rw [carried, there.apply_unionAll some_box proper_of_mem_gather]
  generalize Extent.unionAll (t.gather a (surveys.filterMap Survey.footprint?)) = e at proper ⊢
  have returned : back.apply (there.apply e) = e :=
    Affine.apply_apply_of_inverse paired.inverse proper
  have arrives : t.reproject { extent := e, crs := a } b =
      .ok { extent := there.apply e, crs := b } :=
    paired.reproject_eq (Crs.sameFrame_equivalence.refl a)
  have arrives' : t.reproject { extent := there.apply e, crs := b } a =
      .ok { extent := back.apply (there.apply e), crs := a } :=
    paired.symm.reproject_eq (Crs.sameFrame_equivalence.refl b)
  rw [returned] at arrives'
  exact ⟨rfl, returned, arrives, arrives'⟩

/-- One axis is turned round and one is stretched. Layers lie in both systems under other spellings,
and an inverted box in a third system is passed over. -/
theorem maxBounds_carried_over_turned :
    let a : Crs := { code := "A" }
    let b : Crs := { code := "B" }
    let there : Affine Rat := ⟨-2, 10, 3, -1⟩
    let back : Affine Rat := ⟨-1 / 2, 5, 1 / 3, 1 / 3⟩
    let t := ({} : TransformTable Rat).register a b there
    let reports (e : Extent Rat) (crs : Crs) : Survey Rat :=
      { layer := .numbered 0, report := .known { extent := e, crs } }
    let surveys := [reports ⟨0, 0, 1, 1⟩ { code := " a" }, reports .null { code := "C" },
      reports ⟨-5, 2, 4, 8⟩ { code := "b", name := some "site" }]
    t.Paired a b there back ∧
      (maxBounds t.reprojector (some a) surveys).1 =
        some { extent := ⟨0, 0, 15 / 2, 3⟩, crs := a } ∧
      (maxBounds t.reprojector (some b) surveys).1 =
        some { extent := ⟨-5, -1, 10, 8⟩, crs := b } ∧
      there.apply ⟨0, 0, 15 / 2, 3⟩ = ⟨-5, -1, 10, 8⟩ ∧
      back.apply ⟨-5, -1, 10, 8⟩ = ⟨0, 0, 15 / 2, 3⟩ := by
  intro a b there back t reports surveys
  have inverse : there.inverse = some back := by decide +kernel
  have paired : t.Paired a b there back := .of_register {} (by decide) inverse
  have known : ∀ f ∈ usable (surveys.filterMap Survey.footprint?),
      f.crs.SameFrame a ∨ f.crs.SameFrame b := by decide +kernel
  have some_usable : usable (surveys.filterMap Survey.footprint?) ≠ [] := by decide +kernel
  have value : (maxBounds t.reprojector (some a) surveys).1 =
      some { extent := ⟨0, 0, 15 / 2, 3⟩, crs := a } := by decide +kernel
  obtain ⟨g, h, first, second, -, own, image, image', -, -⟩ :=
    maxBounds_carried_over t a b there back paired surveys known some_usable
  rw [value] at first
  obtain rfl := Option.some.inj first
  have turned : there.apply ⟨0, 0, 15 / 2, 3⟩ = ⟨-5, -1, 10, 8⟩ := by decide +kernel
  obtain ⟨e, crs⟩ := h
  obtain rfl : crs = b := own
  obtain rfl : e = ⟨-5, -1, 10, 8⟩ := image.trans turned
  exact ⟨paired, value, second, turned, image'⟩

end LayeredMap

import Mathlib
import LayeredMap.Proofs.Containment

/-!
# The signs of zeros

Two doubles are akin if they are the same or both zero. Comparisons, NaN and
finiteness do not tell such doubles apart, and sums and products of akin doubles
are akin. So boxes with akin corners stay such when they are sorted and carried
over by a transform. The box between two opposite corners is the same up to the
signs of zeros, whichever two corners are given.
-/

namespace LayeredMap

namespace Double

open Float.Model

/-- The same, or zeros of any sign. -/
inductive AkinUnpacked : UnpackedFloat → UnpackedFloat → Prop
  | same (a : UnpackedFloat) : AkinUnpacked a a
  | zeros (s s' : UnpackedFloat.Sign) : AkinUnpacked (.zero s) (.zero s')

namespace AkinUnpacked

variable {a a' : UnpackedFloat}

theorem mul (h : AkinUnpacked a a') (spec : Format) (b : UnpackedFloat) :
    AkinUnpacked (.mul spec a b) (.mul spec a' b) := by
  cases h with
  | same => exact .same _
  | zeros s s' =>
    cases b with
    | notANumber | infinity => exact .same _
    | zero | finite => exact .zeros _ _

theorem add (h : AkinUnpacked a a') (spec : Format) (b : UnpackedFloat) :
    AkinUnpacked (.add spec a b) (.add spec a' b) := by
  cases h with
  | same => exact .same _
  | zeros s s' =>
    cases b with
    | notANumber | infinity | finite => exact .same _
    | zero s'' => cases s <;> cases s' <;> cases s'' <;> exact .zeros _ _

theorem packed (h : AkinUnpacked a a') :
    AkinUnpacked (.unpack Format.binary64 (a.pack _)) (.unpack Format.binary64 (a'.pack _)) := by
  cases h with
  | same => exact .same _
  | zeros s s' => cases s <;> cases s' <;> exact .zeros _ _

theorem isNaN_eq (h : AkinUnpacked a a') : a.isNaN = a'.isNaN := by
  cases h <;> rfl

theorem isFinite_eq (h : AkinUnpacked a a') : a.isFinite = a'.isFinite := by
  cases h <;> rfl

theorem rank_eq (h : AkinUnpacked a a') : rank a = rank a' := by
  cases h <;> rfl

/-- Numbers of one rank are the same or zeros. -/
theorem of_rank_eq (number : a.isNaN = false) (number' : a'.isNaN = false)
    (h : rank a = rank a') : AkinUnpacked a a' := by
  rcases a with (_ | _) | _ | _ | ⟨_ | _, m, e, hm⟩ <;>
    rcases a' with (_ | _) | _ | _ | ⟨_ | _, m', e', hm'⟩ <;>
    simp [rank, UnpackedFloat.isNaN] at h number number'
  case zero.zero => exact .zeros _ _
  case finite.negative.finite.negative | finite.positive.finite.positive =>
    obtain ⟨rfl, rfl⟩ := h
    exact .same _
  all_goals exact .same _

end AkinUnpacked

/-- The same double, or zeros of any sign. -/
def Akin (x y : Float) : Prop := AkinUnpacked x.toModel.unpack y.toModel.unpack

variable {x x' y y' : Float}

theorem Akin.refl (x : Float) : Akin x x := .same _

theorem Akin.isNaN_eq (h : Akin x x') : Coordinate.isNaN x = Coordinate.isNaN x' := by
  rw [Bool.eq_iff_iff, ← not_iff_not, Bool.not_eq_true, Bool.not_eq_true,
    Coordinate.isNaN_eq_false_iff, Coordinate.isNaN_eq_false_iff, self_le_iff, self_le_iff]
  exact iff_of_eq (congrArg (· = false) (AkinUnpacked.isNaN_eq h))

theorem Akin.isFinite_eq (h : Akin x x') : Coordinate.isFinite x = Coordinate.isFinite x' :=
  AkinUnpacked.isFinite_eq h

theorem Akin.le_iff (h : Akin x x') (h' : Akin y y') : x ≤ y ↔ x' ≤ y' := by
  have nan : x.isNaN = x'.isNaN := AkinUnpacked.isNaN_eq h
  have nan' : y.isNaN = y'.isNaN := AkinUnpacked.isNaN_eq h'
  rw [Double.le_iff, Double.le_iff, nan, nan', AkinUnpacked.rank_eq h, AkinUnpacked.rank_eq h']

/-- Scaled and shifted, akin doubles stay akin. -/
theorem Akin.affine (h : Akin x x') (scale offset : Float) :
    Akin (x * scale + offset) (x' * scale + offset) :=
  ((AkinUnpacked.mul h Format.binary64 scale.toModel.unpack).packed.add Format.binary64
    offset.toModel.unpack).packed

theorem Akin.lower (h : Akin x x') (h' : Akin y y') :
    Akin (Coordinate.lower x y) (Coordinate.lower x' y') := by
  simp only [Coordinate.lower, h.le_iff h', h'.isNaN_eq]
  split
  · exact h
  · exact h'

theorem Akin.upper (h : Akin x x') (h' : Akin y y') :
    Akin (Coordinate.upper x y) (Coordinate.upper x' y') := by
  simp only [Coordinate.upper, h'.le_iff h, h'.isNaN_eq]
  split
  · exact h
  · exact h'

theorem akin_of_le (below : x ≤ y) (above : y ≤ x) : Akin x y := by
  obtain ⟨number, number', first⟩ := le_iff.mp below
  obtain ⟨-, -, second⟩ := le_iff.mp above
  exact .of_rank_eq number number' (le_antisymm first second)

/-- Of two numbers the lower one does not hang on their order. -/
theorem akin_lower_comm (hx : x ≤ x) (hy : y ≤ y) :
    Akin (Coordinate.lower x y) (Coordinate.lower y x) := by
  obtain ⟨below_x, below_y⟩ := Coordinate.lower_le hx hy
  obtain ⟨below_y', below_x'⟩ := Coordinate.lower_le hy hx
  exact akin_of_le ((Coordinate.le_lower_iff hy hx).mpr ⟨below_y, below_x⟩)
    ((Coordinate.le_lower_iff hx hy).mpr ⟨below_x', below_y'⟩)

theorem akin_upper_comm (hx : x ≤ x) (hy : y ≤ y) :
    Akin (Coordinate.upper x y) (Coordinate.upper y x) := by
  obtain ⟨above_x, above_y⟩ := Coordinate.le_upper hx hy
  obtain ⟨above_y', above_x'⟩ := Coordinate.le_upper hy hx
  exact akin_of_le ((Coordinate.upper_le_iff hx hy).mpr ⟨above_x', above_y'⟩)
    ((Coordinate.upper_le_iff hy hx).mpr ⟨above_y, above_x⟩)

end Double

/-! ## Boxes -/

namespace Extent

open Coordinate Double

/-- Four akin numbers. -/
structure Akin (a b : Extent Float) : Prop where
  minX : Double.Akin a.minX b.minX
  minY : Double.Akin a.minY b.minY
  maxX : Double.Akin a.maxX b.maxX
  maxY : Double.Akin a.maxY b.maxY

theorem Akin.refl (a : Extent Float) : a.Akin a := ⟨.refl _, .refl _, .refl _, .refl _⟩

variable {a b : Extent Float}

theorem Akin.isNull_eq (h : a.Akin b) : a.isNull = b.isNull := by
  rw [isNull, isNull, decide_eq_decide.mpr (h.minX.le_iff h.maxX),
    decide_eq_decide.mpr (h.minY.le_iff h.maxY)]

theorem Akin.isEmpty_eq (h : a.Akin b) : a.isEmpty = b.isEmpty := by
  have bounded : a.isBounded = b.isBounded := by
    rw [isBounded, isBounded]
    simp only [List.all_cons, h.minX.isFinite_eq, h.minY.isFinite_eq, h.maxX.isFinite_eq,
      h.maxY.isFinite_eq]
  rw [isEmpty, isEmpty, h.isNull_eq, bounded]

/-- Akin boxes that are not null contain each other. -/
theorem Akin.sameGround (h : a.Akin b) : a.SameGround b := by
  cases null : a.isNull with
  | true => exact ⟨.inl null, .inl (h.isNull_eq ▸ null)⟩
  | false =>
    have solid : b.isNull = false := h.isNull_eq ▸ null
    obtain ⟨minX, maxX, minY, maxY⟩ := numbers_of_not_null null
    have outer : a.Encloses b :=
      { left := (Double.Akin.le_iff (.refl _) h.minX).mp minX
        right := (h.maxX.le_iff (.refl _)).mp maxX
        bottom := (Double.Akin.le_iff (.refl _) h.minY).mp minY
        top := (h.maxY.le_iff (.refl _)).mp maxY }
    have inner : b.Encloses a :=
      { left := (h.minX.le_iff (.refl _)).mp minX
        right := (Double.Akin.le_iff (.refl _) h.maxX).mp maxX
        bottom := (h.minY.le_iff (.refl _)).mp minY
        top := (Double.Akin.le_iff (.refl _) h.maxY).mp maxY }
    exact ⟨.inr (inner.contains null), .inr (outer.contains solid)⟩

/-! ## Corners -/

section Corners

variable {x₁ y₁ x₂ y₂ x₁' y₁' x₂' y₂' : Float}

/-- Akin corners span akin boxes. -/
theorem akin_spanning (hx₁ : Double.Akin x₁ x₁') (hy₁ : Double.Akin y₁ y₁')
    (hx₂ : Double.Akin x₂ x₂') (hy₂ : Double.Akin y₂ y₂') :
    (spanning x₁ y₁ x₂ y₂).Akin (spanning x₁' y₁' x₂' y₂') := by
  have nan : [x₁, y₁, x₂, y₂].any isNaN = [x₁', y₁', x₂', y₂'].any isNaN := by
    simp only [List.any_cons, hx₁.isNaN_eq, hy₁.isNaN_eq, hx₂.isNaN_eq, hy₂.isNaN_eq]
  rw [spanning, spanning, nan]
  split
  · exact .refl _
  · exact ⟨hx₁.lower hx₂, hy₁.lower hy₂, hx₁.upper hx₂, hy₁.upper hy₂⟩

/-- On each axis the two ends are given in either order. -/
structure SameCorners (a b : Extent Float) : Prop where
  x : b.minX = a.minX ∧ b.maxX = a.maxX ∨ b.minX = a.maxX ∧ b.maxX = a.minX
  y : b.minY = a.minY ∧ b.maxY = a.maxY ∨ b.minY = a.maxY ∧ b.maxY = a.minY

/-- The ends of an axis, sorted, do not hang on their order. -/
theorem akin_ends (numbers : x₁ ≤ x₁ ∧ x₂ ≤ x₂)
    (ends : x₁' = x₁ ∧ x₂' = x₂ ∨ x₁' = x₂ ∧ x₂' = x₁) :
    Double.Akin (lower x₁ x₂) (lower x₁' x₂') ∧ Double.Akin (upper x₁ x₂) (upper x₁' x₂') := by
  rcases ends with ⟨rfl, rfl⟩ | ⟨rfl, rfl⟩
  · exact ⟨.refl _, .refl _⟩
  · exact ⟨akin_lower_comm numbers.1 numbers.2, akin_upper_comm numbers.1 numbers.2⟩

theorem SameCorners.isBounded (h : a.SameCorners b) (bounded : a.isBounded = true) :
    b.isBounded = true := by
  obtain ⟨minX, minY, maxX, maxY⟩ := isBounded_iff.mp bounded
  rw [isBounded_iff]
  rcases h with ⟨⟨x, x'⟩ | ⟨x, x'⟩, ⟨y, y'⟩ | ⟨y, y'⟩⟩ <;> simp [x, x', y, y', minX, minY, maxX, maxY]

theorem numbers_of_isBounded (h : a.isBounded = true) :
    ∀ x ∈ [a.minX, a.minY, a.maxX, a.maxY], x ≤ x := fun x hx =>
  Lawful.self_le_of_isFinite (List.all_eq_true.mp h x hx)

/-- The box between two corners is the same for the two other corners. -/
theorem SameCorners.akin (h : a.SameCorners b) (bounded : a.isBounded = true) :
    (spanning a.minX a.minY a.maxX a.maxY).Akin (spanning b.minX b.minY b.maxX b.maxY) := by
  have numbers := numbers_of_isBounded bounded
  rw [spanning_of_numbers numbers, spanning_of_numbers (numbers_of_isBounded (h.isBounded bounded))]
  obtain ⟨left, right⟩ := akin_ends ⟨numbers _ (by simp), numbers _ (by simp)⟩ h.x
  obtain ⟨bottom, top⟩ := akin_ends ⟨numbers _ (by simp), numbers _ (by simp)⟩ h.y
  exact ⟨left, bottom, right, top⟩

end Corners

theorem Akin.apply (h : a.Akin b) (m : Affine Float) : (m.apply a).Akin (m.apply b) :=
  akin_spanning (h.minX.affine _ _) (h.minY.affine _ _) (h.maxX.affine _ _) (h.maxY.affine _ _)

/-- Boxes that cover the same ground one by one do so together. -/
theorem sameGround_unionAll {es es' : List (Extent Float)}
    (each : List.Forall₂ SameGround es es') : (unionAll es).SameGround (unionAll es') := by
  refine sameGround_of_within fun c => ?_
  rw [unionAll_within_iff, unionAll_within_iff]
  induction each with
  | nil => exact .rfl
  | cons first _ ih => rw [List.forall_mem_cons, List.forall_mem_cons, first.within_iff, ih]

end Extent

/-! ## Footprints -/

/-- In one system, with akin boxes. -/
structure Footprint.Akin (f g : Footprint Float) : Prop where
  crs : f.crs = g.crs
  extent : f.extent.Akin g.extent

section Layers

variable {t : TransformTable Float} {target : Crs} {f g : Footprint Float}
  {fs gs : List (Footprint Float)}

/-- A table brings both of two akin boxes over, or neither. -/
theorem Footprint.Akin.contribution (h : f.Akin g) :
    Option.Rel Extent.SameGround (t.reprojector.contribution target f)
      (t.reprojector.contribution target g) := by
  simp only [Reprojector.contribution, t.equivalent_reprojector, t.reproject_reprojector,
    TransformTable.reproject, h.crs]
  cases target.sameFrame g.crs with
  | true => exact .some h.extent.sameGround
  | false =>
    cases g.crs.sameFrame target with
    | true => exact .some h.extent.sameGround
    | false =>
      cases t.find? (g.crs.key, target.key) with
      | none => exact .none
      | some m =>
        have moved := h.extent.apply m
        simp only [moved.isEmpty_eq]
        cases (m.apply g.extent).isEmpty with
        | true => exact .none
        | false => exact .some moved.sameGround

theorem sameGround_gather (each : List.Forall₂ Footprint.Akin fs gs) :
    List.Forall₂ Extent.SameGround (t.gather target fs) (t.gather target gs) := by
  have filtered : List.Forall₂ Footprint.Akin (usable fs) (usable gs) := by
    refine List.rel_filter (fun f g h => ?_) each
    have same : f.isEmpty = g.isEmpty := h.extent.isEmpty_eq
    simp [same]
  exact List.rel_filterMap (fun f g h => h.contribution) filtered

/-- Akin footprints have one union, up to the signs of zeros. -/
theorem unionAll_gather_akin (each : List.Forall₂ Footprint.Akin fs gs) :
    (Extent.unionAll (t.gather target fs) == Extent.unionAll (t.gather target gs)) = true :=
  Extent.unionAll_beq proper_of_mem_gather proper_of_mem_gather
    (Extent.sameGround_unionAll (sameGround_gather each))

end Layers
end LayeredMap

import LayeredMap.Proofs.Aggregation

/-!
# Empty boxes under transforms

A transform moves the corners of a box one by one and spans a box between
their images, in any order. So what it makes of a box does not depend on
whether the box was inverted. Boxes with NaN or an infinity are not made proper
that way, since their images are not finite. Inverted boxes with finite corners
are: a table brings them into another system as proper boxes, as long as nothing
overflows.
-/

namespace LayeredMap

variable {α : Type} [Coordinate α]

/-- The images of the corners of a box, axis by axis. -/
def Affine.images (a : Affine α) (e : Extent α) : List α :=
  [e.minX * a.scaleX + a.offsetX, e.minY * a.scaleY + a.offsetY,
    e.maxX * a.scaleX + a.offsetX, e.maxY * a.scaleY + a.offsetY]

variable [Coordinate.Lawful α]

/-- Nothing but NaN makes an image null. -/
theorem Affine.isNull_apply (a : Affine α) (e : Extent α) :
    (a.apply e).isNull = true ↔ ∃ x ∈ a.images e, Coordinate.isNaN x = true :=
  Extent.isNull_spanning

theorem Affine.isEmpty_apply_eq_false_iff (a : Affine α) (e : Extent α) :
    (a.apply e).isEmpty = false ↔ ∀ x ∈ a.images e, Coordinate.isFinite x = true := by
  rw [Extent.isEmpty_eq_false_iff]
  exact Extent.proper_spanning_iff

/-- A box is bounded if the images of its corners are. -/
theorem Affine.isBounded_of_images {a : Affine α} {e : Extent α}
    (finite : ∀ x ∈ a.images e, Coordinate.isFinite x = true) : e.isBounded = true := by
  simp only [images, List.mem_cons, List.not_mem_nil, or_false, forall_eq_or_imp,
    forall_eq] at finite
  obtain ⟨minX, minY, maxX, maxY⟩ := finite
  apply Extent.isBounded_iff.mpr
  exact ⟨Coordinate.Lawful.isFinite_of_affine minX, Coordinate.Lawful.isFinite_of_affine minY,
    Coordinate.Lawful.isFinite_of_affine maxX, Coordinate.Lawful.isFinite_of_affine maxY⟩

/-- When a table makes a footprint of an empty one that is not empty. -/
theorem TransformTable.reproject_empty_iff {t : TransformTable α} {f g : Footprint α} {target : Crs} :
    f.isEmpty = true ∧ t.reproject f target = .ok g ∧ g.isEmpty = false ↔
      f.extent.isNull = true ∧ f.extent.isBounded = true ∧ f.crs.sameFrame target = false ∧
        ∃ a, t.find? (f.crs.key, target.key) = some a ∧
          (∀ x ∈ a.images f.extent, Coordinate.isFinite x = true) ∧
          g = { extent := a.apply f.extent, crs := target } := by
  constructor
  · rintro ⟨vacant, moved, proper⟩
    rcases reproject_ok_iff.mp moved with ⟨-, rfl⟩ | ⟨other, a, filed, kept, rfl⟩
    · exact absurd (proper.symm.trans vacant) Bool.false_ne_true
    · have finite := (a.isEmpty_apply_eq_false_iff f.extent).mp kept
      have bounded := Affine.isBounded_of_images finite
      have inverted : f.extent.isNull = true := by
        simpa [Footprint.isEmpty, Extent.isEmpty, bounded] using vacant
      exact ⟨inverted, bounded, other, a, filed, finite, rfl⟩
  · rintro ⟨inverted, -, other, a, filed, finite, rfl⟩
    have kept := (a.isEmpty_apply_eq_false_iff f.extent).mpr finite
    refine ⟨?_, reproject_ok_iff.mpr (.inr ⟨other, a, filed, kept, rfl⟩), kept⟩
    simp [Footprint.isEmpty, Extent.isEmpty, inverted]

/-- Over any table of transforms between doubles: an empty footprint is brought into another system
without failure and without staying empty exactly if it is inverted with finite corners and a transform
is filed under which their images are finite. A transform by itself makes a box null exactly if an
image is NaN, whether the box was null or not. -/
theorem extent_manufactured_iff (t : TransformTable Float) (f g : Footprint Float) (target : Crs) :
    (f.isEmpty = true ∧ t.reproject f target = .ok g ∧ g.isEmpty = false ↔
      f.extent.isNull = true ∧ f.extent.isBounded = true ∧ f.crs.sameFrame target = false ∧
        ∃ a, t.find? (f.crs.key, target.key) = some a ∧
          (∀ x ∈ a.images f.extent, x.isFinite = true) ∧
          g = { extent := a.apply f.extent, crs := target }) ∧
      ∀ (a : Affine Float) (e : Extent Float),
        (a.apply e).isNull = true ↔ ∃ x ∈ a.images e, Coordinate.isNaN x = true := by
  constructor
  · exact TransformTable.reproject_empty_iff
  · exact Affine.isNull_apply

/-- The null box, shifted nowhere, covers the unit square below the origin. -/
theorem extent_manufactured :
    let a : Affine Float := .shifting 0 0
    let t := ({} : TransformTable Float).register { code := "A" } { code := "B" } a
    let f : Footprint Float := .nowhere { code := "A" }
    let g : Footprint Float := { extent := ⟨-1, -1, 0, 0⟩, crs := { code := "B" } }
    f.isEmpty = true ∧ t.reproject f { code := "B" } = .ok g ∧ g.isEmpty = false ∧
      (Extent.null : Extent Float).isNull = true ∧ (a.apply .null).isNull = false := by
  decide +kernel

end LayeredMap

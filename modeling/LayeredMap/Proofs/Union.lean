import LayeredMap.Proofs.Boxes

/-!
# The union as the least box over two

A box that is null covers nothing, so it lies within every box. A box that is
not null lies within those that contain it. In this order, which takes in
inverted boxes and those with NaN or infinities, the union of two boxes lies
within a box exactly if both of them do. That says all there is to say of the
union: it does not hang on order, grouping or repetition, up to what the order
cannot tell apart. For doubles this is which null box it is and the signs of
zeros.
-/

namespace LayeredMap

variable {α : Type} [Coordinate α]

namespace Coordinate

variable [Lawful α] {x y z : α}

theorem le_lower_iff (hx : x ≤ x) (hy : y ≤ y) : z ≤ lower x y ↔ z ≤ x ∧ z ≤ y := by
  obtain ⟨below_x, below_y⟩ := lower_le hx hy
  constructor
  · intro below
    exact ⟨Lawful.le_trans below below_x, Lawful.le_trans below below_y⟩
  · rintro ⟨first, second⟩
    rcases lower_eq_or x y with eq | eq <;> rw [eq] <;> assumption

theorem upper_le_iff (hx : x ≤ x) (hy : y ≤ y) : upper x y ≤ z ↔ x ≤ z ∧ y ≤ z := by
  obtain ⟨above_x, above_y⟩ := le_upper hx hy
  constructor
  · intro above
    exact ⟨Lawful.le_trans above_x above, Lawful.le_trans above_y above⟩
  · rintro ⟨first, second⟩
    rcases upper_eq_or x y with eq | eq <;> rw [eq] <;> assumption

end Coordinate

namespace Extent

open Coordinate

variable {a b c : Extent α}

/-- On both axes the ends of one box are not inside the ends of the other. -/
structure Encloses (a b : Extent α) : Prop where
  left : a.minX ≤ b.minX
  right : b.maxX ≤ a.maxX
  bottom : a.minY ≤ b.minY
  top : b.maxY ≤ a.maxY

theorem contains_iff : a.contains b = true ↔
    a.isNull = false ∧ b.isNull = false ∧ a.Encloses b := by
  rw [contains]
  constructor
  · intro holds
    simp only [Bool.and_eq_true, Bool.not_eq_true', decide_eq_true_eq] at holds
    obtain ⟨⟨⟨⟨⟨ha, hb⟩, left⟩, right⟩, bottom⟩, top⟩ := holds
    exact ⟨ha, hb, left, right, bottom, top⟩
  · rintro ⟨ha, hb, left, right, bottom, top⟩
    simp [ha, hb, left, right, bottom, top]

/-- Nothing of the box is outside the other one. -/
def Within (a b : Extent α) : Prop := a.isNull = true ∨ b.contains a = true

theorem within_iff_contains (h : a.isNull = false) : a.Within b ↔ b.contains a = true := by
  rw [Within, h]
  exact ⟨fun within => within.resolve_left Bool.false_ne_true, .inr⟩

theorem within_iff_of_not_null : a.Within b ↔ (a.isNull = false → b.contains a = true) := by
  constructor
  · intro within solid
    exact (within_iff_contains solid).mp within
  · intro covers
    cases null : a.isNull with
    | true => exact .inl null
    | false => exact .inr (covers null)

theorem Within.isNull (h : a.Within b) (hb : b.isNull = true) : a.isNull = true := by
  rcases h with null | covers
  · exact null
  · obtain ⟨solid, -, -⟩ := contains_iff.mp covers
    exact absurd (solid.symm.trans hb) Bool.false_ne_true

theorem contains_iff_within : a.contains b = true ↔ b.isNull = false ∧ b.Within a := by
  constructor
  · intro covers
    exact ⟨(contains_iff.mp covers).2.1, .inr covers⟩
  · rintro ⟨solid, within⟩
    exact (within_iff_contains solid).mp within

theorem union_eq (ha : a.isNull = false) (hb : b.isNull = false) : a.union b =
    { minX := lower a.minX b.minX, minY := lower a.minY b.minY
      maxX := upper a.maxX b.maxX, maxY := upper a.maxY b.maxY } := by
  simp [Extent.union, ha, hb]

variable [Lawful α]

/-- No end of a box that is not null is NaN. -/
theorem numbers_of_not_null (h : a.isNull = false) :
    a.minX ≤ a.minX ∧ a.maxX ≤ a.maxX ∧ a.minY ≤ a.minY ∧ a.maxY ≤ a.maxY := by
  obtain ⟨x_ordered, y_ordered⟩ := isNull_eq_false_iff.mp h
  obtain ⟨minX, maxX⟩ := Lawful.self_le_of_le x_ordered
  obtain ⟨minY, maxY⟩ := Lawful.self_le_of_le y_ordered
  exact ⟨minX, maxX, minY, maxY⟩

theorem Encloses.trans (h : a.Encloses b) (h' : b.Encloses c) : a.Encloses c where
  left := Lawful.le_trans h.left h'.left
  right := Lawful.le_trans h'.right h.right
  bottom := Lawful.le_trans h.bottom h'.bottom
  top := Lawful.le_trans h'.top h.top

/-- What encloses a box that is not null is not null either. -/
theorem Encloses.contains (h : a.Encloses b) (hb : b.isNull = false) : a.contains b = true := by
  obtain ⟨x_ordered, y_ordered⟩ := isNull_eq_false_iff.mp hb
  have solid : a.isNull = false := isNull_eq_false_iff.mpr
    ⟨Lawful.le_trans (Lawful.le_trans h.left x_ordered) h.right,
      Lawful.le_trans (Lawful.le_trans h.bottom y_ordered) h.top⟩
  exact contains_iff.mpr ⟨solid, hb, h⟩

theorem contains_self (h : a.isNull = false) : a.contains a = true := by
  obtain ⟨minX, maxX, minY, maxY⟩ := numbers_of_not_null h
  exact contains_iff.mpr ⟨h, h, minX, maxX, minY, maxY⟩

theorem contains_trans (h : a.contains b = true) (h' : b.contains c = true) :
    a.contains c = true := by
  obtain ⟨-, -, outer⟩ := contains_iff.mp h
  obtain ⟨-, solid, inner⟩ := contains_iff.mp h'
  exact (outer.trans inner).contains solid

theorem Within.refl (a : Extent α) : a.Within a := by
  cases null : a.isNull with
  | true => exact .inl null
  | false => exact .inr (contains_self null)

theorem Within.trans (h : a.Within b) (h' : b.Within c) : a.Within c := by
  rcases h with null | covers
  · exact .inl null
  · have solid : b.isNull = false := (contains_iff.mp covers).1
    exact .inr (contains_trans ((within_iff_contains solid).mp h') covers)

/-! ## The union -/

theorem isNull_union_of_not_null (ha : a.isNull = false) (hb : b.isNull = false) :
    (a.union b).isNull = false := by
  obtain ⟨ax, ay⟩ := isNull_eq_false_iff.mp ha
  obtain ⟨bx, bY⟩ := isNull_eq_false_iff.mp hb
  rw [union_eq ha hb, isNull_eq_false_iff]
  exact ⟨lower_le_upper_of_le ax bx, lower_le_upper_of_le ay bY⟩

/-- A union is enclosed exactly by what encloses both operands. -/
theorem encloses_union_iff (ha : a.isNull = false) (hb : b.isNull = false) :
    c.Encloses (a.union b) ↔ c.Encloses a ∧ c.Encloses b := by
  obtain ⟨aLeft, aRight, aBottom, aTop⟩ := numbers_of_not_null ha
  obtain ⟨bLeft, bRight, bBottom, bTop⟩ := numbers_of_not_null hb
  rw [union_eq ha hb]
  constructor
  · rintro ⟨left, right, bottom, top⟩
    obtain ⟨left, left'⟩ := (le_lower_iff aLeft bLeft).mp left
    obtain ⟨right, right'⟩ := (upper_le_iff aRight bRight).mp right
    obtain ⟨bottom, bottom'⟩ := (le_lower_iff aBottom bBottom).mp bottom
    obtain ⟨top, top'⟩ := (upper_le_iff aTop bTop).mp top
    exact ⟨⟨left, right, bottom, top⟩, ⟨left', right', bottom', top'⟩⟩
  · rintro ⟨first, second⟩
    exact
      { left := (le_lower_iff aLeft bLeft).mpr ⟨first.left, second.left⟩
        right := (upper_le_iff aRight bRight).mpr ⟨first.right, second.right⟩
        bottom := (le_lower_iff aBottom bBottom).mpr ⟨first.bottom, second.bottom⟩
        top := (upper_le_iff aTop bTop).mpr ⟨first.top, second.top⟩ }

theorem contains_union_iff (ha : a.isNull = false) (hb : b.isNull = false) :
    c.contains (a.union b) = true ↔ c.contains a = true ∧ c.contains b = true := by
  have both := isNull_union_of_not_null ha hb
  constructor
  · intro covers
    obtain ⟨first, second⟩ := (encloses_union_iff ha hb).mp (contains_iff.mp covers).2.2
    exact ⟨first.contains ha, second.contains hb⟩
  · rintro ⟨first, second⟩
    have encloses := (encloses_union_iff ha hb).mpr
      ⟨(contains_iff.mp first).2.2, (contains_iff.mp second).2.2⟩
    exact encloses.contains both

/-- The law of the union: it lies within what both operands lie within. -/
theorem union_within_iff : (a.union b).Within c ↔ a.Within c ∧ b.Within c := by
  cases hb : b.isNull with
  | true =>
    rw [union_of_right_null hb]
    exact ⟨fun within => ⟨within, .inl hb⟩, And.left⟩
  | false =>
    cases ha : a.isNull with
    | true =>
      rw [union_of_left_null ha hb]
      exact ⟨fun within => ⟨.inl ha, within⟩, And.right⟩
    | false =>
      rw [within_iff_contains (isNull_union_of_not_null ha hb), within_iff_contains ha,
        within_iff_contains hb]
      exact contains_union_iff ha hb

theorem within_union (a b : Extent α) : a.Within (a.union b) ∧ b.Within (a.union b) :=
  union_within_iff.mp (.refl _)

theorem isNull_union_iff : (a.union b).isNull = true ↔ a.isNull = true ∧ b.isNull = true := by
  constructor
  · intro null
    obtain ⟨first, second⟩ := within_union a b
    exact ⟨first.isNull null, second.isNull null⟩
  · rintro ⟨ha, hb⟩
    rw [union_of_right_null hb]
    exact ha

/-! ## What the order cannot tell apart -/

/-- Each of two boxes lies within the other. -/
def SameGround (a b : Extent α) : Prop := a.Within b ∧ b.Within a

theorem sameGround_equivalence : Equivalence (SameGround (α := α)) where
  refl a := ⟨.refl a, .refl a⟩
  symm h := ⟨h.2, h.1⟩
  trans h h' := ⟨h.1.trans h'.1, h'.2.trans h.2⟩

/-- Boxes that lie within the same boxes cover the same ground. -/
theorem sameGround_of_within (h : ∀ c, a.Within c ↔ b.Within c) : a.SameGround b :=
  ⟨(h b).mpr (.refl b), (h a).mp (.refl a)⟩

theorem SameGround.within_iff (h : a.SameGround b) : a.Within c ↔ b.Within c :=
  ⟨h.2.trans, h.1.trans⟩

theorem SameGround.union {a' b' : Extent α} (ha : a.SameGround a') (hb : b.SameGround b') :
    (a.union b).SameGround (a'.union b') := by
  refine sameGround_of_within fun c => ?_
  rw [union_within_iff, union_within_iff, ha.within_iff, hb.within_iff]

omit [Lawful α] in
theorem SameGround.isNull_eq (h : a.SameGround b) : a.isNull = b.isNull :=
  Bool.eq_iff_iff.mpr ⟨h.2.isNull, h.1.isNull⟩

theorem SameGround.contains_eq {a' b' : Extent α} (ha : a.SameGround a') (hb : b.SameGround b') :
    a.contains b = a'.contains b' := by
  rw [Bool.eq_iff_iff, contains_iff_within, contains_iff_within, hb.isNull_eq, hb.within_iff]
  have moved : b'.Within a ↔ b'.Within a' :=
    ⟨fun within => within.trans ha.1, fun within => within.trans ha.2⟩
  rw [moved]

theorem union_comm (a b : Extent α) : (a.union b).SameGround (b.union a) := by
  refine sameGround_of_within fun c => ?_
  rw [union_within_iff, union_within_iff]
  exact And.comm

theorem union_assoc (a b c : Extent α) :
    ((a.union b).union c).SameGround (a.union (b.union c)) := by
  refine sameGround_of_within fun d => ?_
  simp only [union_within_iff]
  exact and_assoc

theorem union_self (a : Extent α) : (a.union a).SameGround a := by
  refine sameGround_of_within fun c => ?_
  rw [union_within_iff]
  exact and_self_iff

/-- A box lies within another one exactly if it adds nothing to it. -/
theorem union_sameGround_iff : (a.union b).SameGround a ↔ b.Within a := by
  obtain ⟨first, second⟩ := within_union a b
  constructor
  · intro same
    exact second.trans same.1
  · intro within
    exact ⟨union_within_iff.mpr ⟨.refl a, within⟩, first⟩

/-! ## Doubles -/

/-- The same box, up to which null box it is and the signs of zeros. -/
def Alike (a b : Extent Float) : Prop := a.isNull = true ∧ b.isNull = true ∨ (a == b) = true

theorem beq_iff_encloses {a b : Extent Float} :
    (a == b) = true ↔ a.Encloses b ∧ b.Encloses a := by
  have split : (a == b) = (a.minX == b.minX && (a.minY == b.minY &&
      (a.maxX == b.maxX && a.maxY == b.maxY))) := rfl
  rw [split, Bool.and_eq_true, Bool.and_eq_true, Bool.and_eq_true]
  simp only [Double.beq_iff]
  constructor
  · rintro ⟨⟨left, left'⟩, ⟨bottom, bottom'⟩, ⟨right, right'⟩, top, top'⟩
    exact ⟨⟨left, right', bottom, top'⟩, ⟨left', right, bottom', top⟩⟩
  · rintro ⟨first, second⟩
    exact ⟨⟨first.left, second.left⟩, ⟨first.bottom, second.bottom⟩, ⟨second.right, first.right⟩,
      second.top, first.top⟩

theorem alike_iff_sameGround {a b : Extent Float} : a.Alike b ↔ a.SameGround b := by
  constructor
  · rintro (⟨ha, hb⟩ | same)
    · exact ⟨.inl ha, .inl hb⟩
    · obtain ⟨first, second⟩ := beq_iff_encloses.mp same
      cases hb : b.isNull with
      | false =>
        have covers := first.contains hb
        have covers' := second.contains (contains_iff.mp covers).1
        exact ⟨.inr covers', .inr covers⟩
      | true =>
        cases ha : a.isNull with
        | true => exact ⟨.inl ha, .inl hb⟩
        | false =>
          have solid := (contains_iff.mp (second.contains ha)).1
          exact absurd (solid.symm.trans hb) Bool.false_ne_true
  · intro same
    rcases same.1 with ha | covers
    · exact .inl ⟨ha, same.isNull_eq ▸ ha⟩
    · obtain ⟨hb, ha, inner⟩ := contains_iff.mp covers
      obtain ⟨-, -, outer⟩ := contains_iff.mp ((within_iff_contains hb).mp same.2)
      exact .inr (beq_iff_encloses.mpr ⟨outer, inner⟩)

theorem alike_equivalence : Equivalence Alike := by
  have same : Alike = SameGround := by
    funext a b
    exact propext alike_iff_sameGround
  rw [same]
  exact sameGround_equivalence

/-- A box that is null exactly if both of two boxes are, that contains those of them that are not
null, and that is contained in every box that contains these. -/
structure LeastOver (u a b : Extent α) : Prop where
  null : u.isNull = true ↔ a.isNull = true ∧ b.isNull = true
  first : a.isNull = false → u.contains a = true
  second : b.isNull = false → u.contains b = true
  least : ∀ c : Extent α, a.isNull = false ∨ b.isNull = false →
    (a.isNull = false → c.contains a = true) → (b.isNull = false → c.contains b = true) →
      c.contains u = true

theorem leastOver_union (a b : Extent α) : (a.union b).LeastOver a b where
  null := isNull_union_iff
  first := within_iff_of_not_null.mp (within_union a b).1
  second := within_iff_of_not_null.mp (within_union a b).2
  least c some_solid first second := by
    have within : (a.union b).Within c := union_within_iff.mpr
      ⟨within_iff_of_not_null.mpr first, within_iff_of_not_null.mpr second⟩
    have solid : (a.union b).isNull = false := by
      refine Bool.eq_false_iff.mpr fun null => ?_
      obtain ⟨ha, hb⟩ := isNull_union_iff.mp null
      rcases some_solid with solid | solid
      · exact Bool.false_ne_true (solid.symm.trans ha)
      · exact Bool.false_ne_true (solid.symm.trans hb)
    exact (within_iff_contains solid).mp within

/-- Boxes of any doubles. The union is the least box over two, and a null operand leaves the other
one as it is. Telling neither null boxes apart nor zeros of either sign is an equivalence that
union and containment respect. Up to it the union does not hang on order, grouping or repetition,
containment orders the boxes that are not null, and a box contains another one that is not null
exactly if that adds nothing to it. Two boxes that are not empty have a union that is not empty. -/
theorem union_least :
    Equivalence Alike ∧
      (∀ a a' b b' : Extent Float, a.Alike a' → b.Alike b' →
        (a.union b).Alike (a'.union b') ∧ a.contains b = a'.contains b') ∧
      ∀ a b c : Extent Float,
        (a.union b).LeastOver a b ∧
        (b.isNull = true → a.union b = a ∧ (a.isNull = false → b.union a = a)) ∧
        (a.union b).Alike (b.union a) ∧
        ((a.union b).union c).Alike (a.union (b.union c)) ∧
        (a.union a).Alike a ∧
        (a.isNull = false → a.contains a = true) ∧
        (a.contains b = true → b.contains c = true → a.contains c = true) ∧
        (a.contains b = true → b.contains a = true → a.Alike b) ∧
        (a.contains b = true ↔
          b.isNull = false ∧ a.isNull = false ∧ (a.union b).Alike a) ∧
        (a.isEmpty = false → b.isEmpty = false → (a.union b).isEmpty = false) := by
  refine ⟨alike_equivalence, ?_, fun a b c => ?_⟩
  · simp only [alike_iff_sameGround]
    intro a a' b b' first second
    exact ⟨first.union second, first.contains_eq second⟩
  · simp only [alike_iff_sameGround]
    refine ⟨leastOver_union a b, ?neutral, union_comm a b, union_assoc a b c, union_self a,
      contains_self, contains_trans, ?antisymm, ?absorbs, ?proper⟩
    case neutral =>
      intro null
      exact ⟨union_of_right_null null, union_of_left_null null⟩
    case antisymm =>
      intro covers under
      exact ⟨.inr under, .inr covers⟩
    case absorbs =>
      rw [union_sameGround_iff, contains_iff_within]
      constructor
      · rintro ⟨solid, within⟩
        have covers := (within_iff_contains solid).mp within
        exact ⟨solid, (contains_iff.mp covers).1, within⟩
      · rintro ⟨solid, -, within⟩
        exact ⟨solid, within⟩
    case proper =>
      simp only [isEmpty_eq_false_iff]
      exact Proper.union

/-- A box with ends at infinity takes in one that ends at the other zero, and neither NaN nor an
inverted box changes it. -/
theorem union_least_raw :
    let nan : Float := 0 / 0
    let inf : Float := 1 / 0
    let half : Extent Float := ⟨0.0, 0, inf, 1⟩
    let cell : Extent Float := ⟨-0.0, 0, 2, 1⟩
    let broken : Extent Float := ⟨nan, 0, 2, 1⟩
    let inverted : Extent Float := ⟨0, 3, 2, 1⟩
    cell.isNull = false ∧ half.contains cell = true ∧ half.union cell ≠ cell.union half ∧
      (half.union cell).Alike (cell.union half) ∧ (half.union cell).Alike half ∧
      half.union broken = half ∧ broken.union half = half ∧
      (broken.union inverted).isNull = true ∧ broken.Alike inverted := by
  intro nan inf half cell broken inverted
  have solid : half.isNull = false := by decide +kernel
  have null : broken.isNull = true := by decide +kernel
  have null' : inverted.isNull = true := by decide +kernel
  have covers : half.contains cell = true := by decide +kernel
  obtain ⟨-, -, laws⟩ := union_least
  obtain ⟨-, -, comm, -, -, -, -, -, absorbs, -⟩ := laws half cell cell
  obtain ⟨-, neutral, -⟩ := laws half broken half
  obtain ⟨least, -⟩ := laws broken inverted half
  obtain ⟨cell_solid, -, adds_nothing⟩ := absorbs.mp covers
  obtain ⟨kept, kept'⟩ := neutral null
  exact ⟨cell_solid, covers, by decide +kernel, comm, adds_nothing, kept, kept' solid,
    least.null.mpr ⟨null, null'⟩, .inl ⟨null, null'⟩⟩

end Extent
end LayeredMap

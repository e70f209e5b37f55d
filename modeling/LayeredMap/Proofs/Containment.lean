import LayeredMap.Proofs.Action
import LayeredMap.Proofs.Aggregation
import LayeredMap.Proofs.Stack
import LayeredMap.Proofs.Union

/-!
# More layers, more ground

The union of two boxes lies within what both of them lie within, so a union of
many boxes hangs on which boxes there are, and not on how often or in which
order they come. With a system preferred, what a footprint contributes
does not depend on the other layers, and the largest footprint grows with the
set of footprints that are reported. Of the same set it is the same, where zeros
of either sign count as equal, since the order cannot tell them apart.
-/

namespace LayeredMap

variable {α : Type} [Coordinate α]

namespace Extent

open Coordinate

variable [Lawful α] {a c : Extent α} {es es' : List (Extent α)}

/-- A running union lies within what its start and everything that is added lie within. -/
theorem foldl_union_within_iff :
    (es.foldl .union a).Within c ↔ a.Within c ∧ ∀ e ∈ es, e.Within c := by
  induction es generalizing a with
  | nil => simp
  | cons b es ih => rw [List.foldl_cons, ih, union_within_iff, List.forall_mem_cons, and_assoc]

theorem unionAll_within_iff : (unionAll es).Within c ↔ ∀ e ∈ es, e.Within c := by
  cases es with
  | nil => exact ⟨fun _ e he => absurd he List.not_mem_nil, fun _ => .inl isNull_null⟩
  | cons a es => rw [unionAll, foldl_union_within_iff, List.forall_mem_cons]

theorem within_unionAll : ∀ e ∈ es, e.Within (unionAll es) :=
  unionAll_within_iff.mp (.refl _)

theorem unionAll_mono (sub : es ⊆ es') : (unionAll es).Within (unionAll es') :=
  unionAll_within_iff.mpr fun e he => within_unionAll e (sub he)

end Extent

section Layers

variable {t : TransformTable α} {target : Crs} {fs fs' : List (Footprint α)}

theorem gather_subset (t : TransformTable α) (target : Crs) (sub : fs ⊆ fs') :
    t.gather target fs ⊆ t.gather target fs' :=
  List.filterMap_subset _ (List.filter_subset _ sub)

theorem unionAll_gather_mono [Coordinate.Lawful α] (sub : fs ⊆ fs')
    (some_box : (Extent.unionAll (t.gather target fs)).isEmpty = false) :
    (Extent.unionAll (t.gather target fs')).contains (Extent.unionAll (t.gather target fs)) =
      true := by
  have solid := (Extent.isEmpty_eq_false_iff.mp some_box).isNull_eq_false
  exact (Extent.within_iff_contains solid).mp (Extent.unionAll_mono (gather_subset t target sub))

/-- Proper boxes that cover the same ground together have one union, up to the signs of zeros. -/
theorem Extent.unionAll_beq {es es' : List (Extent Float)} (proper : ∀ e ∈ es, e.Proper)
    (proper' : ∀ e ∈ es', e.Proper) (same : (unionAll es).SameGround (unionAll es')) :
    (unionAll es == unionAll es') = true := by
  by_cases nothing : es = [] ∧ es' = []
  · rw [nothing.1, nothing.2]
    decide
  · rcases alike_iff_sameGround.mpr same with ⟨null, null'⟩ | equal
    · rcases not_and_or.mp nothing with some_box | some_box
      · exact absurd ((proper_unionAll some_box proper).isNull_eq_false.symm.trans null)
          Bool.false_ne_true
      · exact absurd ((proper_unionAll some_box proper').isNull_eq_false.symm.trans null')
          Bool.false_ne_true
    · exact equal

/-- The order and the number of times in which footprints are reported show in the signs of zeros at
most. -/
theorem unionAll_gather_beq (t : TransformTable Float) (target : Crs)
    {fs fs' : List (Footprint Float)} (sub : fs ⊆ fs') (sub' : fs' ⊆ fs) :
    (Extent.unionAll (t.gather target fs) == Extent.unionAll (t.gather target fs')) = true :=
  Extent.unionAll_beq proper_of_mem_gather proper_of_mem_gather
    ⟨Extent.unionAll_mono (gather_subset t target sub),
      Extent.unionAll_mono (gather_subset t target sub')⟩

end Layers

/-! ## Exchanging layers -/

/-- Layers that exchange their places stay in the stack, and no layer hears of it from the sheet. -/
theorem Sheet.swap_spec (s : Sheet) (i j : Nat) :
    (s.swap i j).sheet.layers.Perm s.layers ∧
      ∀ a ∈ (s.swap i j).actions, ∀ r object l, Layer.receive r object l a = l := by
  rw [swap, whenLive]
  cases s.disposed with
  | true => exact ⟨.refl _, by simp [Step.still]⟩
  | false =>
    cases [i, j].find? (s.layerCount ≤ ·) with
    | some k => exact ⟨.refl _, by simp [Step.still]⟩
    | none =>
      by_cases same : i = j
      · simp [same, Step.still]
      · have permuted := s.stack.swap_perm i j
        cases later : (s.stack.swap i j).2.get? (max i j) with
        | none => simpa [same, later, layers] using permuted
        | some l => simpa [same, later, layers, publishStack, Layer.receive] using permuted

namespace World

/-- What the members of a sheet report. -/
def surveys (w : World) (r : SheetRef) : List (Survey Float) :=
  (w.sheet r).layers.map fun l => (w.layer l.object).survey

theorem maxBoundsIn_eq (w : World) (r : SheetRef) (preferred : Option Crs) :
    (w.maxBoundsIn r preferred).2 =
      (maxBounds (w.scene.reprojectors r) preferred (w.surveys r)).1 := rfl

/-- The surveys of a sheet are permuted along with its layers. -/
theorem surveys_swap_perm (w : World) (r : SheetRef) (i j : Nat) :
    ((w.perform r fun s => SheetCommand.step s (.swap i j)).1.surveys r).Perm (w.surveys r) := by
  obtain ⟨permuted, deaf⟩ := (w.sheet r).swap_spec i j
  have kept (object : Nat) : (w.perform r fun s => SheetCommand.step s (.swap i j)).1.layer object =
      w.layer object := by
    rw [layer_perform]
    refine List.foldlRecOn (motive := (· = w.layer object)) _ _ rfl fun l same a ha => ?_
    exact (deaf a ha r object l).trans same
  rw [surveys, sheet_perform, if_pos rfl]
  simp only [kept]
  exact permuted.map _

end World

/-- Over any table of transforms between doubles and with a system preferred: whatever the layers
report, there is a result in that system. If every footprint that is reported is also reported among
more layers, then the result for those contains this one, unless this one is empty. If the same
footprints are reported, the results are equal up to the signs of zeros; so they are before and after
two layers of a sheet exchange their places. -/
theorem maxBounds_mono (t : TransformTable Float) (target : Crs) :
    (∀ surveys surveys' : List (Survey Float),
      let reported := surveys.filterMap Survey.footprint?
      let reported' := surveys'.filterMap Survey.footprint?
      reported ⊆ reported' →
        ∃ e e' : Extent Float,
          (maxBounds t.reprojector (some target) surveys).1 = some { extent := e, crs := target } ∧
          (maxBounds t.reprojector (some target) surveys').1 =
            some { extent := e', crs := target } ∧
          (e.isEmpty = false → e'.contains e = true) ∧
          (reported' ⊆ reported → (e == e') = true)) ∧
      ∀ (w : World) (name : String) (r : SheetRef) (i j : Nat),
        w.scene.sheetNamed? name = some r → w.scene.reprojectors r = t.reprojector →
          let w' := (w.execute (.sheet name (.swap i j))).1
          ((w'.maxBoundsIn r (some target)).2 == (w.maxBoundsIn r (some target)).2) = true := by
  constructor
  · intro surveys surveys' reported reported' sub
    refine ⟨_, _, maxBounds_preferred t target surveys, maxBounds_preferred t target surveys', ?_⟩
    exact ⟨unionAll_gather_mono sub, unionAll_gather_beq t target sub⟩
  · intro w name r i j named table w'
    have swapped : w' = (w.perform r fun s => SheetCommand.step s (.swap i j)).1 := by
      simp only [w', World.execute, World.withSheet, named]
    have table' : w'.scene.reprojectors r = t.reprojector := by
      rw [swapped, World.scene_perform]
      exact table
    have permuted := (w.surveys_swap_perm r i j).filterMap Survey.footprint?
    rw [← swapped] at permuted
    rw [World.maxBoundsIn_eq, World.maxBoundsIn_eq, table, table', maxBounds_preferred,
      maxBounds_preferred]
    have same := unionAll_gather_beq t target permuted.subset permuted.symm.subset
    exact Bool.and_eq_true_iff.mpr ⟨same, beq_self_eq_true target⟩

/-- More layers: another order, one of them twice, one in a system that is not known and one more in
reach. Two boxes that differ in the sign of a zero change their places. -/
theorem maxBounds_mono_mixed :
    let a : Crs := { code := "A" }
    let b : Crs := { code := "B" }
    let t := ({} : TransformTable Float).register b a (.shifting (-100) 0)
    let reports (e : Extent Float) (crs : Crs) : Survey Float :=
      { layer := .numbered 0, report := .known { extent := e, crs } }
    let gone : Survey Float := { layer := .numbered 0, report := .crashed "no source" }
    let near := reports ⟨0, 0, 1, 1⟩ a
    let east := reports ⟨105, 2, 110, 3⟩ b
    let few := [near, gone, east]
    let many := [east, reports ⟨8, 8, 9, 9⟩ { code := "C" }, gone, east, reports ⟨2, 2, 3, 4⟩ a, near]
    let tile (n : Nat) (x : Float) : Layer × Flags :=
      let f : Footprint Float := { extent := ⟨x, 0, 1, 1⟩, crs := a }
      ({ id := .numbered n, body := .fixed { title := "", bounds := some f } }, {})
    let w := (World.opening [tile 0 0.0, tile 1 (-0.0)] []).run
      [.create "m" none none t.reprojector,
        .sheet "m" (.addAll [⟨0, .numbered 0⟩, ⟨1, .numbered 1⟩])]
    let w' := (w.execute (.sheet "m" (.swap 0 1))).1
    (∃ e e', (maxBounds t.reprojector (some a) few).1 = some { extent := e, crs := a } ∧
        (maxBounds t.reprojector (some a) many).1 = some { extent := e', crs := a } ∧
        e = ⟨0, 0, 10, 3⟩ ∧ e'.contains e = true) ∧
      (w'.maxBoundsIn ⟨0⟩ (some a)).2 ≠ (w.maxBoundsIn ⟨0⟩ (some a)).2 ∧
      ((w'.maxBoundsIn ⟨0⟩ (some a)).2 == (w.maxBoundsIn ⟨0⟩ (some a)).2) = true := by
  intro a b t reports gone near east few many tile w w'
  obtain ⟨grows, swaps⟩ := maxBounds_mono t a
  have sub : few.filterMap Survey.footprint? ⊆ many.filterMap Survey.footprint? :=
    List.filterMap_subset _ (by simp [few, many])
  obtain ⟨e, e', value, value', contains, -⟩ := grows few many sub
  have known : (maxBounds t.reprojector (some a) few).1 =
      some { extent := ⟨0, 0, 10, 3⟩, crs := a } := by decide +kernel
  have box : e = ⟨0, 0, 10, 3⟩ := by
    rw [known] at value
    exact congrArg Footprint.extent (Option.some.inj value).symm
  have proper : e.isEmpty = false := by
    rw [box]
    decide +kernel
  have named : w.scene.sheetNamed? "m" = some ⟨0⟩ := by decide +kernel
  exact ⟨⟨e, e', value, value', box, contains proper⟩, by decide +kernel,
    swaps w "m" ⟨0⟩ 0 1 named rfl⟩

end LayeredMap

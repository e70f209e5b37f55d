import LayeredMap.Proofs.Boxes
import LayeredMap.Proofs.MaxBounds

/-!
# The largest footprint over a transform table

Whatever numbers layers report and whatever transforms are filed, nothing but a
proper box gets into the union: an empty footprint is passed over, one in the
system of the result counts as it stands, and what a table makes of one in
another system is proper or a failure. So the result is proper as soon as one
layer contributes, and otherwise it is the box that is written for nothing.
-/

namespace LayeredMap

theorem Crs.sameFrame_self (c : Crs) : c.sameFrame c = true := by
  simp [sameFrame, Text.sameLetters]

variable {α : Type}

theorem contribution_isSome {r : Reprojector α} {target : Crs} {f : Footprint α} :
    (r.contribution target f).isSome = true ↔
      r.equivalent target f.crs = true ∨ ∃ g, r.reproject f target = .ok g := by
  rw [Reprojector.contribution]
  by_cases same : r.equivalent target f.crs = true
  · simp [same]
  · cases moved : r.reproject f target <;> simp [same, Except.toOption]

variable [Coordinate α]

/-- If every system is equivalent to itself, the footprint from which the reference is adopted is
one contribution among the others. -/
theorem maxBounds_of_reflexive (r : Reprojector α) (reflexive : ∀ c, r.equivalent c c = true)
    (preferred : Option Crs) (surveys : List (Survey α)) :
    (maxBounds r preferred surveys).1 =
      match referenceCrs preferred (usable (surveys.filterMap Survey.footprint?)) with
      | some target =>
        some
          { extent := .unionAll
              ((usable (surveys.filterMap Survey.footprint?)).filterMap (r.contribution target))
            crs := target }
      | none => (surveys.filterMap Survey.footprint?).head?.map fun f => .nowhere f.crs := by
  cases preferred with
  | some target =>
    obtain ⟨reference, extent⟩ := Tally.foldl_add_of_reference r target surveys
      { reference := some target } rfl
    have united := Tally.coverAll_none
      ((usable (surveys.filterMap Survey.footprint?)).filterMap (r.contribution target))
    simp only [maxBounds, Tally.result, reference, extent, referenceCrs]
    simp [united]
  | none =>
    have value := Tally.result_foldl_add_of_no_reference r surveys { reference := none } rfl rfl
    rw [maxBounds, value, referenceCrs]
    cases usable (surveys.filterMap Survey.footprint?) with
    | nil => cases surveys.filterMap Survey.footprint? <;> rfl
    | cons f fs =>
      have own : r.contribution f.crs f = some f.extent := if_pos (reflexive f.crs)
      simp [List.filterMap_cons_some own]

theorem mem_usable {f : Footprint α} {fs : List (Footprint α)} :
    f ∈ usable fs ↔ f ∈ fs ∧ f.extent.Proper := by
  rw [usable, List.mem_filter, ← Extent.isEmpty_eq_false_iff, Bool.not_eq_true']
  rfl

/-- What a table answers: within a frame nothing moves, otherwise the filed transform is applied and
must not yield an empty box. -/
theorem TransformTable.reproject_ok_iff {t : TransformTable α} {f g : Footprint α} {target : Crs} :
    t.reproject f target = .ok g ↔
      f.crs.sameFrame target = true ∧ g = { f with crs := target } ∨
      f.crs.sameFrame target = false ∧ ∃ a, t.find? (f.crs.key, target.key) = some a ∧
        (a.apply f.extent).isEmpty = false ∧ g = { extent := a.apply f.extent, crs := target } := by
  rw [reproject]
  cases f.crs.sameFrame target with
  | true => simp [@eq_comm _ g]
  | false =>
    cases t.find? (f.crs.key, target.key) with
    | none => simp
    | some a => cases kept : (a.apply f.extent).isEmpty <;> simp [kept, @eq_comm _ g]

/-- What a table makes of a proper box is proper. -/
theorem TransformTable.proper_of_reproject {t : TransformTable α} {f g : Footprint α} {target : Crs}
    (proper : f.extent.Proper) (moved : t.reproject f target = .ok g) : g.extent.Proper := by
  rcases reproject_ok_iff.mp moved with ⟨-, rfl⟩ | ⟨-, a, -, kept, rfl⟩
  · exact proper
  · exact Extent.isEmpty_eq_false_iff.mp kept

theorem TransformTable.reproject_reprojector (t : TransformTable α) :
    t.reprojector.reproject = t.reproject := by
  rw [reprojector]

theorem TransformTable.equivalent_reprojector (t : TransformTable α) :
    t.reprojector.equivalent = Crs.sameFrame := by
  rw [reprojector]

/-- What footprints contribute in a given system, over a table. -/
def TransformTable.gather (t : TransformTable α) (target : Crs) (fs : List (Footprint α)) :
    List (Extent α) :=
  (usable fs).filterMap (t.reprojector.contribution target)

/-- A footprint in the system of the result counts as it stands. -/
theorem TransformTable.contribution_of_sameFrame {t : TransformTable α} {target : Crs}
    {f : Footprint α} (same : target.sameFrame f.crs = true) :
    t.reprojector.contribution target f = some f.extent := by
  rw [Reprojector.contribution, t.equivalent_reprojector, if_pos same]

theorem TransformTable.mem_gather_of_sameFrame {t : TransformTable α} {target : Crs}
    {f : Footprint α} {fs : List (Footprint α)} (there : f ∈ fs) (proper : f.extent.Proper)
    (same : target.sameFrame f.crs = true) : f.extent ∈ t.gather target fs :=
  List.mem_filterMap.mpr
    ⟨f, mem_usable.mpr ⟨there, proper⟩, contribution_of_sameFrame same⟩

/-- With a system preferred there is a result, whatever the layers report. -/
theorem maxBounds_preferred (t : TransformTable α) (target : Crs) (surveys : List (Survey α)) :
    (maxBounds t.reprojector (some target) surveys).1 =
      some
        { extent := .unionAll (t.gather target (surveys.filterMap Survey.footprint?))
          crs := target } := by
  have reflexive : ∀ c, t.reprojector.equivalent c c = true := fun c =>
    t.equivalent_reprojector ▸ c.sameFrame_self
  rw [maxBounds_of_reflexive _ reflexive]
  rfl

/-- If the layers report proper boxes only, there is a result once there is a system, and the system
is that of the first of them unless one is preferred. -/
theorem maxBounds_of_proper (t : TransformTable α) (preferred : Option Crs)
    (surveys : List (Survey α))
    (proper : ∀ f ∈ surveys.filterMap Survey.footprint?, f.extent.Proper) :
    let reported := surveys.filterMap Survey.footprint?
    (maxBounds t.reprojector preferred surveys).1 = (referenceCrs preferred reported).map
      fun target => { extent := .unionAll (t.gather target reported), crs := target } := by
  intro reported
  have all_usable : usable reported = reported := List.filter_eq_self.mpr fun f there =>
    (Bool.not_eq_true' _).mpr (Extent.isEmpty_eq_false_iff.mpr (proper f there))
  have reflexive : ∀ c, t.reprojector.equivalent c c = true := fun c =>
    t.equivalent_reprojector ▸ c.sameFrame_self
  rw [maxBounds_of_reflexive _ reflexive, all_usable]
  cases reference : referenceCrs preferred reported with
  | some target =>
    simp only [TransformTable.gather, all_usable]
    rfl
  | none =>
    obtain ⟨-, nothing⟩ : preferred = none ∧ reported = [] := by
      simpa [referenceCrs] using reference
    rw [show surveys.filterMap Survey.footprint? = [] from nothing]
    rfl

theorem contribution_table_isSome {t : TransformTable α} {target : Crs} {f : Footprint α} :
    (t.reprojector.contribution target f).isSome = true ↔
      target.sameFrame f.crs = true ∨ ∃ g, t.reproject f target = .ok g := by
  rw [contribution_isSome, t.equivalent_reprojector, t.reproject_reprojector]

theorem proper_of_contribution {t : TransformTable α} {target : Crs} {f : Footprint α} {e : Extent α}
    (proper : f.extent.Proper) (h : t.reprojector.contribution target f = some e) : e.Proper := by
  rw [Reprojector.contribution] at h
  split at h
  · obtain rfl := Option.some.inj h
    exact proper
  · rw [t.reproject_reprojector] at h
    cases moved : t.reproject f target with
    | error cause => simp [moved, Except.toOption] at h
    | ok g =>
      rw [moved] at h
      obtain rfl := Option.some.inj h
      exact TransformTable.proper_of_reproject proper moved

theorem proper_of_mem_gather {t : TransformTable α} {target : Crs} {fs : List (Footprint α)} :
    ∀ e ∈ t.gather target fs, e.Proper := by
  intro e he
  obtain ⟨f, useful, adds⟩ := List.mem_filterMap.mp he
  exact proper_of_contribution (mem_usable.mp useful).2 adds

variable [Coordinate.Lawful α]

/-- A union of proper boxes is proper. -/
theorem proper_foldl_union {m : Extent α} {es : List (Extent α)} (first : m.Proper)
    (others : ∀ e ∈ es, e.Proper) : (es.foldl .union m).Proper := by
  induction es generalizing m with
  | nil => exact first
  | cons e es ih =>
    refine ih (first.union (others e List.mem_cons_self)) ?_
    intro e' he'
    exact others e' (List.mem_cons_of_mem e he')

theorem proper_unionAll {es : List (Extent α)} (some_box : es ≠ []) (proper : ∀ e ∈ es, e.Proper) :
    (Extent.unionAll es).Proper := by
  cases es with
  | nil => exact absurd rfl some_box
  | cons e es =>
    refine proper_foldl_union (proper e List.mem_cons_self) ?_
    intro e' he'
    exact proper e' (List.mem_cons_of_mem e he')

/-- The contributions are proper, so their union is, unless there is none of them. -/
theorem unionAll_contributions (t : TransformTable α) (target : Crs) (fs : List (Footprint α)) :
    let es := (usable fs).filterMap (t.reprojector.contribution target)
    (Extent.unionAll es = .null ∨ (Extent.unionAll es).Proper) ∧
      ((Extent.unionAll es).Proper ↔ ∃ f ∈ fs, f.isEmpty = false ∧
        (target.sameFrame f.crs = true ∨ ∃ g, t.reproject f target = .ok g)) := by
  intro es
  have contributes : es ≠ [] ↔ ∃ f ∈ fs, f.isEmpty = false ∧
      (target.sameFrame f.crs = true ∨ ∃ g, t.reproject f target = .ok g) := by
    constructor
    · intro some_box
      obtain ⟨e, he⟩ := List.exists_mem_of_ne_nil es some_box
      obtain ⟨f, useful, adds⟩ := List.mem_filterMap.mp he
      obtain ⟨there, proper⟩ := mem_usable.mp useful
      refine ⟨f, there, Extent.isEmpty_eq_false_iff.mpr proper, ?_⟩
      exact contribution_table_isSome.mp (Option.isSome_of_eq_some adds)
    · rintro ⟨f, there, proper, related⟩
      obtain ⟨e, adds⟩ := Option.isSome_iff_exists.mp (contribution_table_isSome.mpr related)
      have useful := mem_usable.mpr ⟨there, Extent.isEmpty_eq_false_iff.mp proper⟩
      exact List.ne_nil_of_mem (List.mem_filterMap.mpr ⟨f, useful, adds⟩)
  rw [← contributes]
  by_cases nothing : es = []
  · rw [nothing]
    exact ⟨.inl rfl, fun proper => absurd proper Extent.not_proper_null, fun h => absurd rfl h⟩
  · have proper := proper_unionAll nothing proper_of_mem_gather
    exact ⟨.inr proper, fun _ => nothing, fun _ => proper⟩

/-- Over any table of transforms between doubles and for whatever layers report: there is no result
exactly if no system is preferred and no layer reports bounds. Otherwise the box is the one that is
written for nothing, or it is proper, and it is proper exactly if some layer reports a footprint that
is not empty and that is in the system of the result or can be brought there. -/
theorem maxBounds_null_or_proper (t : TransformTable Float) (preferred : Option Crs)
    (surveys : List (Survey Float)) :
    let reported := surveys.filterMap Survey.footprint?
    let result := (maxBounds t.reprojector preferred surveys).1
    (result = none ↔ preferred = none ∧ reported = []) ∧
      ∀ g, result = some g →
        (g.extent = .null ∨ g.extent.Proper) ∧
          (g.extent.Proper ↔ ∃ f ∈ reported, f.isEmpty = false ∧
            (g.crs.sameFrame f.crs = true ∨ ∃ h, t.reproject f g.crs = .ok h)) := by
  intro reported result
  have value : result = _ :=
    maxBounds_of_reflexive t.reprojector (fun c => t.equivalent_reprojector ▸ c.sameFrame_self)
      preferred surveys
  cases reference : referenceCrs preferred (usable reported) with
  | none =>
    rw [reference] at value
    obtain ⟨unset, useless⟩ : preferred = none ∧ usable reported = [] := by
      simpa [referenceCrs] using reference
    rw [value]
    constructor
    · rw [Option.map_eq_none_iff, List.head?_eq_none_iff]
      exact ⟨fun nothing => ⟨unset, nothing⟩, fun h => h.2⟩
    · intro g hg
      obtain ⟨f, -, rfl⟩ := Option.map_eq_some_iff.mp hg
      refine ⟨.inl rfl, ?_⟩
      constructor
      · intro proper
        exact absurd proper Extent.not_proper_null
      · rintro ⟨f', there, proper, -⟩
        have useful := mem_usable.mpr ⟨there, Extent.isEmpty_eq_false_iff.mp proper⟩
        rw [useless] at useful
        exact absurd useful List.not_mem_nil
  | some target =>
    rw [reference] at value
    rw [value]
    constructor
    · constructor
      · intro absent
        exact absurd absent (Option.some_ne_none _)
      · rintro ⟨unset, nothing⟩
        simp [referenceCrs, unset, nothing, usable] at reference
    · intro g hg
      obtain rfl := Option.some.inj hg
      exact unionAll_contributions t target reported

/-- One layer is carried to infinity and one reports NaN. A third one makes the result by itself. -/
theorem maxBounds_null_or_proper_overflow :
    let a : Crs := { code := "A" }
    let b : Crs := { code := "B" }
    let t := ({} : TransformTable Float).register b a (.scaling 1e300 1e300)
    let reports (e : Extent Float) (crs : Crs) : Survey Float :=
      { layer := .numbered 0, report := .known { extent := e, crs } }
    let far := reports ⟨1e10, 0, 1e10, 0⟩ b
    let unclear := reports ⟨0, 0, 0 / 0, 0⟩ a
    let near := reports ⟨1, 2, 3, 4⟩ a
    (maxBounds t.reprojector (some a) [far, unclear]).1 = some (.nowhere a) ∧
      ∃ g, (maxBounds t.reprojector (some a) [far, unclear, near]).1 = some g ∧ g.extent.Proper := by
  intro a b t reports far unclear near
  have reported : (maxBounds t.reprojector (some a) [far, unclear, near]).1 =
      some { extent := ⟨1, 2, 3, 4⟩, crs := a } := by decide +kernel
  obtain ⟨-, kinds⟩ := maxBounds_null_or_proper t (some a) [far, unclear, near]
  refine ⟨by decide +kernel, _, reported, (kinds _ reported).2.mpr ?_⟩
  have listed : { extent := ⟨1, 2, 3, 4⟩, crs := a } ∈
      [far, unclear, near].filterMap Survey.footprint? :=
    List.mem_filterMap.mpr ⟨near, by simp, rfl⟩
  exact ⟨_, listed, by decide +kernel, .inl a.sameFrame_self⟩

end LayeredMap

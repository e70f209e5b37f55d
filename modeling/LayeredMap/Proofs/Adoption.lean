import LayeredMap.Proofs.Aggregation

/-!
# Adopting a system or preferring it

Without a preferred system the tally adopts the one of the first footprint that
is not empty, and takes over its box as it stands. If that system is preferred
from the start, the same footprint goes through the comparison of systems and
into the union. Up to there nobody looks at the reference, since failures are
only put on record and empty footprints only offer a fallback. There the two
tallies become one, as long as a system is equivalent to itself. So they have
one result, down to the name of the system, and one record.
-/

namespace LayeredMap

variable {α : Type} [Coordinate α]

/-- Nothing but an empty footprint is reported. -/
def Survey.Vacant (s : Survey α) : Prop := ∀ f, s.footprint? = some f → f.isEmpty = true

namespace Tally

variable {r : Reprojector α} {t : Tally α} {s : Survey α} {f : Footprint α}

/-- Neither a reference nor a box so far. -/
structure Open (t : Tally α) : Prop where
  reference : t.reference = none
  extent : t.extent = none

def withReference (t : Tally α) (c : Crs) : Tally α := { t with reference := some c }

theorem add_withReference (r : Reprojector α) (t : Tally α) (c : Crs) (vacant : s.Vacant) :
    (t.withReference c).add r s = (t.add r s).withReference c := by
  cases reported : s.report with
  | unknown | failed | crashed => simp [add, reported, note, withReference]
  | known f =>
    have empty : f.isEmpty = true := vacant f (Survey.footprint?_eq_some_iff.mpr reported)
    simp only [add, reported, addFootprint_of_empty _ _ _ empty]
    rfl

theorem Open.add (untouched : t.Open) (vacant : s.Vacant) : (t.add r s).Open := by
  cases reported : s.footprint? with
  | none =>
    obtain ⟨reference, -, extent⟩ := add_of_unknown r t reported
    exact ⟨reference.trans untouched.reference, extent.trans untouched.extent⟩
  | some f =>
    rw [add_of_known r t reported, addFootprint_of_empty r t s.layer (vacant f reported)]
    exact ⟨untouched.reference, untouched.extent⟩

/-- A usable footprint makes one tally of the two: it is adopted, or it is equivalent to what is
preferred and starts the union. -/
theorem Open.adopt (untouched : t.Open) (reflexive : r.equivalent f.crs f.crs = true)
    (reported : s.footprint? = some f) (useful : f.isEmpty = false) :
    (t.withReference f.crs).add r s = t.add r s := by
  have adopted : t.addFootprint r s.layer f =
      { t with reference := some f.crs, extent := some f.extent } := by
    simp [addFootprint, useful, untouched.reference]
  have covered : (t.withReference f.crs).addFootprint r s.layer f =
      (t.withReference f.crs).cover f.extent := by
    simp [addFootprint, withReference, useful, reflexive]
  rw [add_of_known r t reported, add_of_known r _ reported, adopted, covered, cover]
  simp [withReference, untouched.extent]

/-- The two tallies meet at the first usable footprint, and stay together for the other layers. -/
theorem Open.foldl_add_eq (reflexive : ∀ c, r.equivalent c c = true) (surveys : List (Survey α))
    (untouched : t.Open)
    (first : (surveys.filterMap Survey.footprint?).find? (!·.isEmpty) = some f) :
    surveys.foldl (Tally.add r) (t.withReference f.crs) = surveys.foldl (Tally.add r) t := by
  induction surveys generalizing t with
  | nil => exact absurd first.symm (Option.some_ne_none f)
  | cons s rest ih =>
    have passed_over (vacant : s.Vacant)
        (later : (rest.filterMap Survey.footprint?).find? (!·.isEmpty) = some f) :
        (s :: rest).foldl (Tally.add r) (t.withReference f.crs) =
          (s :: rest).foldl (Tally.add r) t := by
      rw [List.foldl_cons, List.foldl_cons, add_withReference r t f.crs vacant]
      exact ih (untouched.add vacant) later
    cases reported : s.footprint? with
    | none =>
      rw [List.filterMap_cons_none reported] at first
      exact passed_over (fun g known => by simp [reported] at known) first
    | some g =>
      rw [List.filterMap_cons_some reported] at first
      cases empty : g.isEmpty with
      | true =>
        rw [List.find?_cons_of_neg (by simp [empty])] at first
        refine passed_over (fun h known => ?_) first
        obtain rfl : g = h := Option.some.inj (reported.symm.trans known)
        exact empty
      | false =>
        rw [List.find?_cons_of_pos (by simp [empty])] at first
        obtain rfl := Option.some.inj first
        rw [List.foldl_cons, List.foldl_cons, untouched.adopt (reflexive g.crs) reported empty]

end Tally

/-- Systems are equivalent to themselves by default and for every table of transforms. For every
reprojector of which this is true and whatever layers report, if one of them reports a footprint
that is not empty: preferring the system of the first such footprint makes no difference to having
no preference, neither to the result, which is in exactly this system, nor to the record. -/
theorem maxBounds_adopted :
    (∀ (reproject : Footprint α → Crs → Except ReprojectionFailure (Footprint α)) (c : Crs),
        Reprojector.equivalent { reproject } c c = true) ∧
      (∀ (t : TransformTable α) (c : Crs), t.reprojector.equivalent c c = true) ∧
      ∀ r : Reprojector α, (∀ c, r.equivalent c c = true) → ∀ surveys : List (Survey α),
        let reported := surveys.filterMap Survey.footprint?
        (∃ f ∈ reported, f.isEmpty = false) →
          ∃ f, reported.find? (!·.isEmpty) = some f ∧
            maxBounds r none surveys = maxBounds r (some f.crs) surveys ∧
            ∃ e, (maxBounds r none surveys).1 = some { extent := e, crs := f.crs } := by
  refine ⟨fun _ c => c.sameFrame_self, fun t c => ?_, ?_⟩
  · rw [t.equivalent_reprojector]
    exact c.sameFrame_self
  · rintro r reflexive surveys reported ⟨g, there, useful⟩
    have found : (reported.find? (!·.isEmpty)).isSome = true :=
      List.find?_isSome.mpr ⟨g, there, by simp [useful]⟩
    obtain ⟨f, first⟩ := Option.isSome_iff_exists.mp found
    have start : ({ reference := none } : Tally α).Open := ⟨rfl, rfl⟩
    have met : surveys.foldl (Tally.add r) { reference := some f.crs } =
        surveys.foldl (Tally.add r) { reference := none } :=
      start.foldl_add_eq reflexive surveys first
    have same : maxBounds r none surveys = maxBounds r (some f.crs) surveys := by
      rw [maxBounds, maxBounds, met]
    refine ⟨f, first, same, ?_⟩
    rw [same, (maxBounds_eq_largest r (some f.crs) surveys).1]
    exact ⟨_, rfl⟩

/-- Systems count as equivalent if their codes have one length. A layer fails, one crashes and one
is empty before the first that counts, which brings a name along, and a later one is out of
reach. -/
theorem maxBounds_adopted_named :
    let r : Reprojector Float :=
      { equivalent := fun a b => a.code.length == b.code.length
        reproject := ({} : TransformTable Float).reproject }
    let site : Crs := { code := "LOCAL:A", name := some "Site grid" }
    let reports (e : Extent Float) (crs : Crs) : Survey Float :=
      { layer := .numbered 0, report := .known { extent := e, crs } }
    let surveys : List (Survey Float) :=
      [{ layer := .numbered 0, report := .failed (.sourceUnavailable (.numbered 0) "timeout") },
        { layer := .numbered 1, report := .crashed "corrupt index" },
        reports .null { code := "B" }, reports ⟨0, 0, 1, 1⟩ site,
        reports ⟨4, 4, 5, 5⟩ { code := "LOCAL:B" }, reports ⟨-9, 0, 9, 9⟩ { code := "C" }]
    (∀ c, r.equivalent c c = true) ∧
      maxBounds r none surveys = maxBounds r (some site) surveys ∧
      (maxBounds r none surveys).1 = some { extent := ⟨0, 0, 5, 5⟩, crs := site } ∧
      (maxBounds r none surveys).2.length = 3 := by
  intro r site reports surveys
  have reflexive : ∀ c, r.equivalent c c = true := fun c => beq_self_eq_true c.code.length
  have some_useful : ∃ f ∈ surveys.filterMap Survey.footprint?, f.isEmpty = false := by
    decide +kernel
  obtain ⟨f, first, same, -⟩ := maxBounds_adopted.2.2 r reflexive surveys some_useful
  have found : (surveys.filterMap Survey.footprint?).find? (!·.isEmpty) =
      some { extent := ⟨0, 0, 1, 1⟩, crs := site } := by decide +kernel
  obtain rfl := Option.some.inj (found.symm.trans first)
  exact ⟨reflexive, same, by decide +kernel, by decide +kernel⟩

end LayeredMap

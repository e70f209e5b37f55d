import LayeredMap.MaxBounds

/-!
# The largest footprint without the loop

The tally carries a reference, a fallback and a running union through the
layers. Here the result is read off the reported footprints at once: the
usable ones, the system they are brought into, and what each contributes.
Nothing is assumed of the numbers or of the reprojector, so boxes with NaN,
inverted boxes and reprojectors that answer with null boxes are included.
-/

namespace LayeredMap

variable {α : Type}

namespace Survey

/-- Absent if the layer knows of no bounds, failed or crashed. -/
def footprint? (s : Survey α) : Option (Footprint α) :=
  match s.report with
  | .known f => some f
  | _ => none

theorem footprint?_eq_some_iff {s : Survey α} {f : Footprint α} :
    s.footprint? = some f ↔ s.report = .known f := by
  cases h : s.report <;> simp [footprint?, h]

theorem filterMap_filter_known (surveys : List (Survey α)) :
    (surveys.filter (·.footprint?.isSome)).filterMap footprint? =
      surveys.filterMap footprint? := by
  induction surveys with
  | nil => rfl
  | cons s rest ih => cases h : s.footprint? <;> simp [h, ih]

end Survey

variable [Coordinate α]

/-- The footprints that can move the result. -/
def usable (reported : List (Footprint α)) : List (Footprint α) :=
  reported.filter fun f => !f.isEmpty

theorem usable_cons_empty {f : Footprint α} (h : f.isEmpty = true) (fs : List (Footprint α)) :
    usable (f :: fs) = usable fs := by
  simp [usable, h]

theorem usable_cons {f : Footprint α} (h : f.isEmpty = false) (fs : List (Footprint α)) :
    usable (f :: fs) = f :: usable fs := by
  simp [usable, h]

/-- What a footprint adds in a given system, unless it cannot be reprojected. -/
def Reprojector.contribution (r : Reprojector α) (target : Crs) (f : Footprint α) :
    Option (Extent α) :=
  if r.equivalent target f.crs then some f.extent
  else (r.reproject f target).toOption.map (·.extent)

/-- Boxes united from left to right. -/
def Extent.unionAll : List (Extent α) → Extent α
  | [] => .null
  | e :: es => es.foldl .union e

/-- The system of the result, if a footprint is usable or a system preferred. -/
def referenceCrs (preferred : Option Crs) (fs : List (Footprint α)) : Option Crs :=
  preferred <|> fs.head?.map (·.crs)

/-- The footprint from which the reference was adopted counts as it stands. -/
def contributions (r : Reprojector α) (preferred : Option Crs) (target : Crs) :
    List (Footprint α) → List (Extent α)
  | [] => []
  | f :: fs =>
    match preferred with
    | some _ => (f :: fs).filterMap (r.contribution target)
    | none => f.extent :: fs.filterMap (r.contribution target)

/-- The union of the contributions in the reference system. Without one, nowhere in the system
of the first footprint reported. -/
def largest (r : Reprojector α) (preferred : Option Crs) (reported : List (Footprint α)) :
    Option (Footprint α) :=
  match referenceCrs preferred (usable reported) with
  | some target =>
    some
      { extent := .unionAll (contributions r preferred target (usable reported))
        crs := target }
  | none => reported.head?.map fun f => .nowhere f.crs

namespace Tally

/-- A running union after further boxes. -/
def coverAll (m : Option (Extent α)) (es : List (Extent α)) : Option (Extent α) :=
  es.foldl (fun m e => some (m.elim e (·.union e))) m

theorem coverAll_some (m : Extent α) (es : List (Extent α)) :
    coverAll (some m) es = some (es.foldl .union m) := by
  induction es generalizing m with
  | nil => rfl
  | cons e es ih => exact ih (m.union e)

theorem coverAll_none (es : List (Extent α)) :
    (coverAll none es).getD .null = Extent.unionAll es := by
  cases es with
  | nil => rfl
  | cons e es =>
    have first : coverAll none (e :: es) = coverAll (some e) es := rfl
    rw [first, coverAll_some]
    rfl

theorem coverAll_append (m : Option (Extent α)) (es es' : List (Extent α)) :
    coverAll m (es ++ es') = coverAll (coverAll m es) es' :=
  List.foldl_append

theorem extent_cover (t : Tally α) (e : Extent α) :
    (t.cover e).extent = coverAll t.extent [e] := by
  cases h : t.extent <;> simp [cover, coverAll, h]

/-- Layers without bounds are put on record at most. -/
theorem add_of_unknown (r : Reprojector α) (t : Tally α) {s : Survey α}
    (h : s.footprint? = none) :
    (t.add r s).reference = t.reference ∧ (t.add r s).fallback = t.fallback ∧
      (t.add r s).extent = t.extent := by
  cases hs : s.report with
  | known f => simp [Survey.footprint?, hs] at h
  | unknown => simp [add, hs]
  | failed e => simp [add, hs, note]
  | crashed e => simp [add, hs, note]

theorem add_of_known (r : Reprojector α) (t : Tally α) {s : Survey α} {f : Footprint α}
    (h : s.footprint? = some f) : t.add r s = t.addFootprint r s.layer f := by
  simp [add, Survey.footprint?_eq_some_iff.mp h]

theorem addFootprint_of_empty (r : Reprojector α) (t : Tally α) (layer : LayerId)
    {f : Footprint α} (h : f.isEmpty = true) :
    t.addFootprint r layer f = { t with fallback := t.fallback <|> some f.crs } := by
  simp [addFootprint, h]

/-- With a reference, a usable footprint is covered by its contribution alone. -/
theorem addFootprint_of_reference (r : Reprojector α) (t : Tally α) (layer : LayerId)
    {f : Footprint α} {target : Crs} (h : t.reference = some target) (hf : f.isEmpty = false) :
    (t.addFootprint r layer f).reference = some target ∧
      (t.addFootprint r layer f).extent =
        coverAll t.extent (r.contribution target f).toList := by
  by_cases heq : r.equivalent target f.crs = true
  · have covered : t.addFootprint r layer f = t.cover f.extent := by
      simp [addFootprint, hf, h, heq]
    rw [covered, extent_cover]
    exact ⟨h, by simp [Reprojector.contribution, heq]⟩
  · cases hp : r.reproject f target with
    | ok g =>
      have covered : t.addFootprint r layer f = t.cover g.extent := by
        simp [addFootprint, hf, h, heq, hp]
      rw [covered, extent_cover]
      exact ⟨h, by simp [Reprojector.contribution, heq, hp, Except.toOption]⟩
    | error e =>
      have skipped : t.addFootprint r layer f = t.note (.layerSkipped layer e) := by
        simp [addFootprint, hf, h, heq, hp]
      rw [skipped]
      exact ⟨h, by simp [Reprojector.contribution, heq, hp, Except.toOption, coverAll, note]⟩

/-- Once there is a reference it stays, and every usable footprint is covered in turn. -/
theorem foldl_add_of_reference (r : Reprojector α) (target : Crs) (surveys : List (Survey α))
    (t : Tally α) (h : t.reference = some target) :
    (surveys.foldl (add r) t).reference = some target ∧
      (surveys.foldl (add r) t).extent = coverAll t.extent
        ((usable (surveys.filterMap Survey.footprint?)).filterMap (r.contribution target)) := by
  induction surveys generalizing t with
  | nil => exact ⟨h, rfl⟩
  | cons s rest ih =>
    rw [List.foldl_cons]
    cases hs : s.footprint? with
    | none =>
      obtain ⟨href, -, hext⟩ := add_of_unknown r t hs
      rw [List.filterMap_cons_none hs, ← hext]
      exact ih (t.add r s) (href.trans h)
    | some f =>
      rw [List.filterMap_cons_some hs, add_of_known r t hs]
      cases hf : f.isEmpty with
      | true =>
        rw [usable_cons_empty hf, addFootprint_of_empty r t s.layer hf]
        exact ih _ h
      | false =>
        obtain ⟨href, hext⟩ := addFootprint_of_reference r t s.layer h hf
        obtain ⟨href', hext'⟩ := ih _ href
        refine ⟨href', hext'.trans ?_⟩
        rw [hext, ← coverAll_append, usable_cons hf]
        cases hc : r.contribution target f <;> simp [hc]

/-- While there is no reference, empty footprints only offer a fallback; the first usable one
turns the tally into one with a reference. -/
theorem result_foldl_add_of_no_reference (r : Reprojector α) (surveys : List (Survey α))
    (t : Tally α) (href : t.reference = none) (hext : t.extent = none) :
    (surveys.foldl (add r) t).result =
      match usable (surveys.filterMap Survey.footprint?) with
      | f :: fs =>
        some
          { extent := .unionAll (f.extent :: fs.filterMap (r.contribution f.crs))
            crs := f.crs }
      | [] => (t.fallback <|> (surveys.filterMap Survey.footprint?).head?.map (·.crs)).map
          Footprint.nowhere := by
  induction surveys generalizing t with
  | nil =>
    simp only [List.foldl_nil, List.filterMap_nil, usable, List.filter_nil, result, href, hext]
    cases t.fallback <;> rfl
  | cons s rest ih =>
    rw [List.foldl_cons]
    cases hs : s.footprint? with
    | none =>
      obtain ⟨href', hfall, hext'⟩ := add_of_unknown r t hs
      rw [List.filterMap_cons_none hs, ← hfall]
      exact ih (t.add r s) (href'.trans href) (hext'.trans hext)
    | some f =>
      rw [List.filterMap_cons_some hs, add_of_known r t hs]
      cases hf : f.isEmpty with
      | true =>
        have first : (t.fallback <|>
              (f :: rest.filterMap Survey.footprint?).head?.map (·.crs)) =
            ((t.fallback <|> some f.crs) <|>
              (rest.filterMap Survey.footprint?).head?.map (·.crs)) := by
          cases t.fallback <;> rfl
        rw [usable_cons_empty hf, addFootprint_of_empty r t s.layer hf, first]
        exact ih _ href hext
      | false =>
        have adopts : t.addFootprint r s.layer f =
            { t with reference := some f.crs, extent := some f.extent } := by
          simp [addFootprint, hf, href]
        obtain ⟨href', hext'⟩ := foldl_add_of_reference r f.crs rest
          { t with reference := some f.crs, extent := some f.extent } rfl
        rw [usable_cons hf, adopts, result, href', hext', coverAll_some]
        rfl

end Tally

/-- The loop computes the largest footprint of the reported ones, and layers that report none
could as well be left out wherever they are. -/
theorem maxBounds_eq_largest (r : Reprojector α) (preferred : Option Crs)
    (surveys : List (Survey α)) :
    (maxBounds r preferred surveys).1 =
        largest r preferred (surveys.filterMap Survey.footprint?) ∧
      (maxBounds r preferred (surveys.filter (·.footprint?.isSome))).1 =
        (maxBounds r preferred surveys).1 := by
  have value : ∀ surveys : List (Survey α), (maxBounds r preferred surveys).1 =
      largest r preferred (surveys.filterMap Survey.footprint?) := by
    intro surveys
    cases preferred with
    | some target =>
      obtain ⟨href, hext⟩ := Tally.foldl_add_of_reference r target surveys
        { reference := some target } rfl
      have same : ∀ fs : List (Footprint α),
          contributions r (some target) target fs = fs.filterMap (r.contribution target) := by
        intro fs
        cases fs <;> rfl
      have hext' := Tally.coverAll_none
        ((usable (surveys.filterMap Survey.footprint?)).filterMap (r.contribution target))
      simp only [maxBounds, Tally.result, href, hext, largest, referenceCrs]
      simp [same, hext']
    | none =>
      have h := Tally.result_foldl_add_of_no_reference r surveys { reference := none } rfl rfl
      simp only [maxBounds, h, largest, referenceCrs]
      cases usable (surveys.filterMap Survey.footprint?) with
      | nil => cases surveys.filterMap Survey.footprint? <;> rfl
      | cons f fs => rfl
  refine ⟨value surveys, ?_⟩
  rw [value, value, Survey.filterMap_filter_known]

end LayeredMap

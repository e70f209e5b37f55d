import LayeredMap.Proofs.Aggregation
import LayeredMap.Proofs.Filing

/-!
# Nothing hangs on a spelling

Systems come in with filings, with footprints and as targets. If each of them is
spelled differently, the same transforms are filed under the same keys, every
question to the table has an answer of the same kind with the same box, and the
layers come to the same union in another spelling of one system.
Texts of failures are the exception, since they quote the codes as they stand.
-/

namespace LayeredMap

variable {α : Type}

/-! ## What is spelled differently -/

structure Filing.Respelled (f f' : Filing α) : Prop where
  source : f.source.SameFrame f'.source
  target : f.target.SameFrame f'.target
  transform : f'.transform = f.transform

structure Footprint.Respelled (f f' : Footprint α) : Prop where
  extent : f'.extent = f.extent
  crs : f.crs.SameFrame f'.crs

/-- Nothing but footprints counts, and not the way in which a layer fails to report one. -/
def Survey.Respelled (s s' : Survey α) : Prop :=
  Option.Rel Footprint.Respelled s.footprint? s'.footprint?

/-- Answers of one kind: both are footprints in one place, or both are failures of one sort. -/
inductive Reprojector.Answered : Except ReprojectionFailure (Footprint α) →
    Except ReprojectionFailure (Footprint α) → Prop
  | found {f f' : Footprint α} : f.Respelled f' → Answered (.ok f) (.ok f')
  | noTransform (a b a' b' : String) :
    Answered (.error (.noTransform a b)) (.error (.noTransform a' b'))
  | degenerate (a b a' b' : String) :
    Answered (.error (.degenerate a b)) (.error (.degenerate a' b'))

theorem Reprojector.Answered.extent_eq {r r' : Except ReprojectionFailure (Footprint α)}
    (h : Answered r r') : r'.toOption.map (·.extent) = r.toOption.map (·.extent) := by
  cases h with
  | found place => exact congrArg some place.extent
  | noTransform | degenerate => rfl

variable [Coordinate α]

/-! ## Tables -/

namespace TransformTable

theorem file_respelled (t : TransformTable α) {f f' : Filing α} (h : f.Respelled f') :
    t.file f' = t.file f := by
  rw [file, file, register, register, h.source.key_eq, h.target.key_eq, h.transform]

/-- Filing the same under other spellings makes the same table. -/
theorem ofFilings_respelled {fs fs' : List (Filing α)} (h : List.Forall₂ Filing.Respelled fs fs') :
    ofFilings fs' = ofFilings fs := by
  have run : ∀ t : TransformTable α, fs'.foldl file t = fs.foldl file t := by
    induction h with
    | nil => exact fun _ => rfl
    | cons first _ ih =>
      intro t
      rw [List.foldl_cons, List.foldl_cons, file_respelled t first, ih]
  exact run {}

theorem reproject_respelled (t : TransformTable α) {f f' : Footprint α} {target target' : Crs}
    (h : f.Respelled f') (aim : target.SameFrame target') :
    Reprojector.Answered (t.reproject f target) (t.reproject f' target') := by
  rw [reproject, reproject, ← h.crs.sameFrame_eq aim, ← h.crs.key_eq, ← aim.key_eq, h.extent]
  cases f.crs.sameFrame target with
  | true => exact .found ⟨rfl, aim⟩
  | false =>
    cases t.find? (f.crs.key, target.key) with
    | none => exact .noTransform _ _ _ _
    | some m =>
      cases vacant : (m.apply f.extent).isEmpty with
      | true => simpa [vacant] using .degenerate _ _ _ _
      | false => simpa [vacant] using .found ⟨rfl, aim⟩

end TransformTable

/-! ## Unions -/

section Unions

variable {fs fs' : List (Footprint α)} {target target' : Crs}

theorem contribution_respelled (t : TransformTable α) {f f' : Footprint α} (h : f.Respelled f')
    (aim : target.SameFrame target') :
    t.reprojector.contribution target' f' = t.reprojector.contribution target f := by
  have answers := t.reproject_respelled h aim
  rw [Reprojector.contribution, Reprojector.contribution, t.equivalent_reprojector,
    t.reproject_reprojector, aim.sameFrame_eq h.crs, h.extent]
  by_cases within : target'.sameFrame f'.crs = true
  · rw [if_pos within, if_pos within]
  · rw [if_neg within, if_neg within, answers.extent_eq]

theorem filterMap_contribution_respelled (t : TransformTable α)
    (h : List.Forall₂ Footprint.Respelled fs fs') (aim : target.SameFrame target') :
    fs'.filterMap (t.reprojector.contribution target') =
      fs.filterMap (t.reprojector.contribution target) := by
  induction h with
  | nil => rw [List.filterMap_nil, List.filterMap_nil]
  | cons first _ ih =>
    rw [List.filterMap_cons, List.filterMap_cons, contribution_respelled t first aim, ih]

theorem usable_respelled (h : List.Forall₂ Footprint.Respelled fs fs') :
    List.Forall₂ Footprint.Respelled (usable fs) (usable fs') := by
  refine List.rel_filter ?_ h
  intro f f' same
  simp only [Footprint.isEmpty, same.extent]

omit [Coordinate α] in
theorem head?_respelled (h : List.Forall₂ Footprint.Respelled fs fs') :
    Option.Rel Crs.SameFrame (fs.head?.map (·.crs)) (fs'.head?.map (·.crs)) := by
  cases h with
  | nil => exact .none
  | cons first _ => exact .some first.crs

omit [Coordinate α] in
theorem referenceCrs_respelled {preferred preferred' : Option Crs}
    (choice : Option.Rel Crs.SameFrame preferred preferred')
    (h : List.Forall₂ Footprint.Respelled fs fs') :
    Option.Rel Crs.SameFrame (referenceCrs preferred fs) (referenceCrs preferred' fs') := by
  cases choice with
  | some same => exact .some same
  | none => exact head?_respelled h

theorem nowhere_respelled (h : List.Forall₂ Footprint.Respelled fs fs') :
    Option.Rel (Footprint.Respelled (α := α)) (fs.head?.map fun f => .nowhere f.crs)
      (fs'.head?.map fun f => .nowhere f.crs) := by
  cases h with
  | nil => exact .none
  | cons first _ => exact .some ⟨rfl, first.crs⟩

theorem maxBounds_respelled (t : TransformTable α) {preferred preferred' : Option Crs}
    (choice : Option.Rel Crs.SameFrame preferred preferred') {surveys surveys' : List (Survey α)}
    (h : List.Forall₂ Survey.Respelled surveys surveys') :
    Option.Rel Footprint.Respelled (maxBounds t.reprojector preferred surveys).1
      (maxBounds t.reprojector preferred' surveys').1 := by
  have reflexive : ∀ c, t.reprojector.equivalent c c = true := Crs.sameFrame_equivalence.refl
  have reported : List.Forall₂ Footprint.Respelled (surveys.filterMap Survey.footprint?)
      (surveys'.filterMap Survey.footprint?) := List.rel_filterMap (fun _ _ same => same) h
  have references := referenceCrs_respelled choice (usable_respelled reported)
  rw [maxBounds_of_reflexive _ reflexive, maxBounds_of_reflexive _ reflexive]
  generalize referenceCrs preferred (usable (surveys.filterMap Survey.footprint?)) = reference
    at references ⊢
  generalize referenceCrs preferred' (usable (surveys'.filterMap Survey.footprint?)) = reference'
    at references ⊢
  cases references with
  | none => exact nowhere_respelled reported
  | some aim =>
    refine .some ⟨?_, aim⟩
    rw [filterMap_contribution_respelled t (usable_respelled reported) aim]

end Unions

/-- Two systems are of one frame exactly if transforms are found under the same key for both, that
is an equivalence, and names, letter case, surrounding blanks and reading a code stay within it. If
all systems are spelled differently, in the filings, in the questions to the table, in what layers
report and in the preference, then as many transforms are filed, each question is answered in the
same way and the layers have the same union, in another spelling of the same system. -/
theorem spelling_immaterial :
    (∀ a b : Crs, a.sameFrame b = true ↔ a.key = b.key) ∧ Equivalence Crs.SameFrame ∧
      (∀ a b : Crs, a.Respelling b → a.SameFrame b) ∧
      ∀ fs fs' : List (Filing α), List.Forall₂ Filing.Respelled fs fs' →
        let t := TransformTable.ofFilings fs
        let t' := TransformTable.ofFilings fs'
        t'.size = t.size ∧
          (∀ (f f' : Footprint α) (target target' : Crs), f.Respelled f' →
            target.SameFrame target' →
              Reprojector.Answered (t.reproject f target) (t'.reproject f' target')) ∧
          ∀ (preferred preferred' : Option Crs) (surveys surveys' : List (Survey α)),
            Option.Rel Crs.SameFrame preferred preferred' →
              List.Forall₂ Survey.Respelled surveys surveys' →
                Option.Rel Footprint.Respelled (maxBounds t.reprojector preferred surveys).1
                  (maxBounds t'.reprojector preferred' surveys').1 := by
  refine ⟨fun _ _ => Crs.sameFrame_iff_key_eq, Crs.sameFrame_equivalence,
    fun _ _ => Crs.Respelling.sameFrame, ?_⟩
  intro fs fs' filed
  rw [TransformTable.ofFilings_respelled filed]
  refine ⟨rfl, ?_, ?_⟩
  · intro f f' target target' same aim
    exact TransformTable.reproject_respelled _ same aim
  · intro preferred preferred' surveys surveys' choice same
    exact maxBounds_respelled _ choice same

/-- The systems of the filing, of two layers and of the preference, each under another spelling. -/
theorem spelling_immaterial_mixed :
    let a : Crs := { code := "A" }
    let b : Crs := { code := "B" }
    let a' : Crs := { code := " a\u3000", name := some "site" }
    let b' : Crs := { code := "b" }
    let shift : Affine Float := .shifting (-100) 0
    let t := TransformTable.ofFilings [{ source := b, target := a, transform := shift }]
    let t' := TransformTable.ofFilings [{ source := b', target := a', transform := shift }]
    let reports (e : Extent Float) (crs : Crs) : Survey Float :=
      { layer := .numbered 0, report := .known { extent := e, crs } }
    (maxBounds t.reprojector (some a) [reports ⟨0, 0, 1, 1⟩ a, reports ⟨105, 2, 110, 3⟩ b]).1 =
        some { extent := ⟨0, 0, 10, 3⟩, crs := a } ∧
      ∃ g, (maxBounds t'.reprojector (some a')
          [reports ⟨0, 0, 1, 1⟩ a', reports ⟨105, 2, 110, 3⟩ b']).1 = some g ∧
        g.extent = ⟨0, 0, 10, 3⟩ ∧ a.SameFrame g.crs := by
  intro a b a' b' shift t t' reports
  have same : a.SameFrame a' := by decide
  have same' : b.SameFrame b' := by decide
  have filed : List.Forall₂ Filing.Respelled
      [{ source := b, target := a, transform := shift }]
      [{ source := b', target := a', transform := shift }] := .cons ⟨same', same, rfl⟩ .nil
  have surveys : List.Forall₂ Survey.Respelled [reports ⟨0, 0, 1, 1⟩ a, reports ⟨105, 2, 110, 3⟩ b]
      [reports ⟨0, 0, 1, 1⟩ a', reports ⟨105, 2, 110, 3⟩ b'] :=
    .cons (.some ⟨rfl, same⟩) (.cons (.some ⟨rfl, same'⟩) .nil)
  obtain ⟨-, -, -, respelled⟩ := spelling_immaterial (α := Float)
  obtain ⟨-, -, bounds⟩ := respelled _ _ filed
  have value : (maxBounds t.reprojector (some a)
      [reports ⟨0, 0, 1, 1⟩ a, reports ⟨105, 2, 110, 3⟩ b]).1 =
        some { extent := ⟨0, 0, 10, 3⟩, crs := a } := by decide +kernel
  have other := bounds (some a) (some a') _ _ (.some same) surveys
  refine ⟨value, ?_⟩
  rw [value] at other
  cases found : (maxBounds t'.reprojector (some a')
      [reports ⟨0, 0, 1, 1⟩ a', reports ⟨105, 2, 110, 3⟩ b']).1 with
  | none => rw [found] at other; exact absurd other Option.not_rel_some_none
  | some g =>
    rw [found] at other
    obtain ⟨extent, crs⟩ := Option.rel_some_some.mp other
    exact ⟨g, rfl, extent, crs⟩

end LayeredMap

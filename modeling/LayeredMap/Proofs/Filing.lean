import Mathlib.Data.List.Induction
import LayeredMap.Proofs.Spelling
import LayeredMap.Reprojection

/-!
# Ways there and back

Transforms are filed one after the other. A filing settles the way there, and
the way back too if its transform has an inverse. One without an inverse leaves
the way back as it was, so what an earlier filing had left there stays in use
beside the new way there. That is how two ways come not to fit together, and
there is no other: between two systems only the last filing matters, whichever
direction it was meant for, and one with an inverse settles both ways.
-/

namespace LayeredMap

variable {α : Type}

/-- A transform as it is handed over to be filed. -/
structure Filing (α : Type) where
  source : Crs
  target : Crs
  transform : Affine α

namespace Filing

variable {f : Filing α} {a b : Crs}

def way (f : Filing α) : Route := (f.source.key, f.target.key)

def wayBack (f : Filing α) : Route := (f.target.key, f.source.key)

/-- The filing relates two systems, in one direction or the other. -/
def Between (f : Filing α) (a b : Crs) : Prop :=
  f.source.sameFrame a = true ∧ f.target.sameFrame b = true ∨
    f.source.sameFrame b = true ∧ f.target.sameFrame a = true

instance : Decidable (f.Between a b) := by
  unfold Between
  infer_instance

theorem between_iff : f.Between a b ↔ f.way = (a.key, b.key) ∨ f.way = (b.key, a.key) := by
  simp only [Between, way, Crs.sameFrame_iff_key_eq, Prod.mk.injEq]

theorem wayBack_eq_iff {x y : String} : f.wayBack = (x, y) ↔ f.way = (y, x) := by
  simp only [way, wayBack, Prod.mk.injEq]
  exact and_comm

theorem between_comm : f.Between a b ↔ f.Between b a := Or.comm

theorem wayBack_ne_way (apart : a.sameFrame b = false) (way : f.way = (a.key, b.key)) :
    f.wayBack ≠ f.way := by
  rw [way, wayBack_eq_iff.mpr way]
  intro same
  exact Crs.sameFrame_eq_false_iff.mp apart (Prod.mk.inj same).2

end Filing

namespace TransformTable

variable {t : TransformTable α} {a b : Crs}

variable [Coordinate α]

def file (t : TransformTable α) (f : Filing α) : TransformTable α :=
  t.register f.source f.target f.transform

/-- The table after transforms have been filed in order. -/
def ofFilings (fs : List (Filing α)) : TransformTable α := fs.foldl file {}

theorem ofFilings_concat (fs : List (Filing α)) (f : Filing α) :
    ofFilings (fs ++ [f]) = (ofFilings fs).file f := by
  simp [ofFilings]

/-- What a filing leaves in a table: its transform, the inverse if there is one, and all else. -/
theorem find?_file (t : TransformTable α) (f : Filing α) (r : Route) :
    (t.file f).find? r =
      if r = f.way then some f.transform
      else if r = f.wayBack then f.transform.inverse.or (t.find? r)
      else t.find? r := by
  rw [file, register]
  cases f.transform.inverse with
  | none => simp [Filing.way]
  | some inverse =>
    rw [find?_put, find?_put]
    rfl

theorem find?_file_way (t : TransformTable α) (f : Filing α) :
    (t.file f).find? f.way = some f.transform := by
  rw [find?_file, if_pos rfl]

theorem find?_file_wayBack (t : TransformTable α) {f : Filing α} (other : f.wayBack ≠ f.way) :
    (t.file f).find? f.wayBack = f.transform.inverse.or (t.find? f.wayBack) := by
  rw [find?_file, if_neg other, if_pos rfl]

/-- Both ways are filed and neither is the inverse of the other. -/
def Torn (t : TransformTable α) (a b : Crs) : Prop :=
  ∃ there back, t.find? (a.key, b.key) = some there ∧ t.find? (b.key, a.key) = some back ∧
    there.inverse ≠ some back ∧ back.inverse ≠ some there

theorem Torn.symm (h : t.Torn a b) : t.Torn b a := by
  obtain ⟨there, back, filed, filed', apart, apart'⟩ := h
  exact ⟨back, there, filed', filed, apart', apart⟩

theorem torn_comm : t.Torn a b ↔ t.Torn b a := ⟨Torn.symm, Torn.symm⟩

theorem torn_congr {t' : TransformTable α} (there : t'.find? (a.key, b.key) = t.find? (a.key, b.key))
    (back : t'.find? (b.key, a.key) = t.find? (b.key, a.key)) : t'.Torn a b ↔ t.Torn a b := by
  rw [Torn, Torn, there, back]

end TransformTable

/-- The filing has no inverse and finds a way back in the table that does not lead back. -/
def Filing.Strands [Coordinate α] (f : Filing α) (t : TransformTable α) : Prop :=
  f.transform.inverse = none ∧
    ∃ back, t.find? f.wayBack = some back ∧ back.inverse ≠ some f.transform

namespace TransformTable

variable [Coordinate α] {t : TransformTable α} {f : Filing α} {a b : Crs}

/-! ## One filing -/

/-- After a filing from one system to the other, its way there stands beside its own inverse, or
beside what was the way back before. -/
theorem torn_file_of_way (apart : a.sameFrame b = false) (way : f.way = (a.key, b.key)) :
    (t.file f).Torn a b ↔ f.Strands t := by
  have wayBack : f.wayBack = (b.key, a.key) := Filing.wayBack_eq_iff.mpr way
  have back := find?_file_wayBack t (Filing.wayBack_ne_way apart way)
  rw [Torn, ← way, ← wayBack, find?_file_way, back, Filing.Strands]
  cases inverse : f.transform.inverse with
  | none => simp [inverse]
  | some m => simp [inverse]

theorem torn_file_of_between (apart : a.sameFrame b = false) (related : f.Between a b) :
    (t.file f).Torn a b ↔ f.Strands t := by
  rcases Filing.between_iff.mp related with way | way
  · exact torn_file_of_way apart way
  · rw [torn_comm]
    exact torn_file_of_way ((b.sameFrame_comm a).trans apart) way

theorem find?_file_of_unrelated (unrelated : ¬ f.Between a b) :
    (t.file f).find? (a.key, b.key) = t.find? (a.key, b.key) := by
  rw [Filing.between_iff, not_or] at unrelated
  obtain ⟨not_there, not_back⟩ := unrelated
  rw [find?_file, if_neg (Ne.symm not_there),
    if_neg fun eq => not_back (Filing.wayBack_eq_iff.mp eq.symm)]

theorem torn_file_of_unrelated (unrelated : ¬ f.Between a b) : (t.file f).Torn a b ↔ t.Torn a b :=
  torn_congr (find?_file_of_unrelated unrelated)
    (find?_file_of_unrelated fun related => unrelated (Filing.between_comm.mp related))

/-! ## Any number of filings -/

theorem find?_append_of_unrelated (earlier : List (Filing α)) {later : List (Filing α)}
    (unrelated : ∀ f ∈ later, ¬ f.Between a b) :
    (ofFilings (earlier ++ later)).find? (a.key, b.key) =
      (ofFilings earlier).find? (a.key, b.key) := by
  induction later using List.reverseRecOn with
  | nil => rw [List.append_nil]
  | append_singleton later f ih =>
    have before : ∀ g ∈ later, ¬ g.Between a b := fun g hg =>
      unrelated g (List.mem_append_left _ hg)
    have last : ¬ f.Between a b := unrelated f (by simp)
    rw [← List.append_assoc, ofFilings_concat, find?_file_of_unrelated last, ih before]

theorem torn_append_of_unrelated (earlier : List (Filing α)) {later : List (Filing α)}
    (unrelated : ∀ f ∈ later, ¬ f.Between a b) :
    (ofFilings (earlier ++ later)).Torn a b ↔ (ofFilings earlier).Torn a b :=
  torn_congr (find?_append_of_unrelated earlier unrelated)
    (find?_append_of_unrelated earlier fun f hf related =>
      unrelated f hf (Filing.between_comm.mp related))

/-- Whatever is filed: between two systems that are not of one frame, both ways are in the table
without one of them being the inverse of the other exactly if the last filing between them has no
inverse and an earlier one has left a way back that does not belong to it. -/
theorem torn_iff_stranded (fs : List (Filing α)) (a b : Crs) (apart : a.sameFrame b = false) :
    (ofFilings fs).Torn a b ↔
      ∃ (earlier : List (Filing α)) (f : Filing α) (later : List (Filing α)),
        fs = earlier ++ f :: later ∧ f.Between a b ∧ (∀ g ∈ later, ¬ g.Between a b) ∧
          f.Strands (ofFilings earlier) := by
  constructor
  · intro torn
    induction fs using List.reverseRecOn with
    | nil =>
      obtain ⟨there, back, filed, -⟩ := torn
      exact absurd filed (by simp [ofFilings])
    | append_singleton fs f ih =>
      rw [ofFilings_concat] at torn
      by_cases related : f.Between a b
      · exact ⟨fs, f, [], rfl, related, by simp, (torn_file_of_between apart related).mp torn⟩
      · obtain ⟨earlier, g, later, rfl, between, quiet, strands⟩ :=
          ih ((torn_file_of_unrelated related).mp torn)
        refine ⟨earlier, g, later ++ [f], by simp, between, ?_, strands⟩
        intro h hh
        rcases List.mem_append.mp hh with before | last
        · exact quiet h before
        · rwa [List.mem_singleton.mp last]
  · rintro ⟨earlier, f, later, rfl, related, quiet, strands⟩
    have split : earlier ++ f :: later = (earlier ++ [f]) ++ later := by simp
    rw [split, torn_append_of_unrelated _ quiet, ofFilings_concat]
    exact (torn_file_of_between apart related).mpr strands

/-- The way of the last filing between two systems is settled by it, and so is the way back if its
transform has an inverse. -/
theorem find?_of_last (earlier : List (Filing α)) {later : List (Filing α)}
    (apart : a.sameFrame b = false) (way : f.way = (a.key, b.key))
    (quiet : ∀ g ∈ later, ¬ g.Between a b) :
    let t := ofFilings (earlier ++ f :: later)
    t.find? f.way = some f.transform ∧
      ∀ back, f.transform.inverse = some back → t.find? f.wayBack = some back := by
  intro t
  have split : t = ofFilings ((earlier ++ [f]) ++ later) := by simp [t]
  have wayBack : f.wayBack = (b.key, a.key) := Filing.wayBack_eq_iff.mpr way
  have quiet' : ∀ g ∈ later, ¬ g.Between b a := fun g hg related =>
    quiet g hg (Filing.between_comm.mp related)
  constructor
  · rw [split, way, find?_append_of_unrelated _ quiet, ofFilings_concat, ← way, find?_file_way]
  · intro back inverse
    rw [split, wayBack, find?_append_of_unrelated _ quiet', ofFilings_concat, ← wayBack,
      find?_file_wayBack _ (Filing.wayBack_ne_way apart way), inverse, Option.some_or]

/-- Whatever is filed, for two systems that are not of one frame. If both ways are in the table, one
of them is the inverse of the other, unless the last filing between the two systems has no inverse
and came upon a way back that does not belong to it. The way of that last filing is always the one
that it brought, and if it has an inverse, that is the way back. -/
theorem ways_fit (fs : List (Filing α)) (a b : Crs) (apart : a.sameFrame b = false) :
    let t := ofFilings fs
    (∀ there back : Affine α, t.find? (a.key, b.key) = some there →
      t.find? (b.key, a.key) = some back →
        there.inverse = some back ∨ back.inverse = some there ∨
          ∃ (earlier : List (Filing α)) (f : Filing α) (later : List (Filing α)),
            fs = earlier ++ f :: later ∧ f.Between a b ∧ (∀ g ∈ later, ¬ g.Between a b) ∧
              f.Strands (ofFilings earlier)) ∧
      ∀ (earlier : List (Filing α)) (f : Filing α) (later : List (Filing α)),
        fs = earlier ++ f :: later → f.Between a b → (∀ g ∈ later, ¬ g.Between a b) →
          t.find? f.way = some f.transform ∧
            ∀ back, f.transform.inverse = some back → t.find? f.wayBack = some back := by
  intro t
  constructor
  · intro there back filed filed'
    by_contra misfit
    push Not at misfit
    obtain ⟨not_there, not_back, not_stranded⟩ := misfit
    have torn : t.Torn a b := ⟨there, back, filed, filed', not_there, not_back⟩
    obtain ⟨earlier, f, later, split, related, quiet, strands⟩ :=
      (torn_iff_stranded fs a b apart).mp torn
    exact not_stranded earlier f later split related quiet strands
  · rintro earlier f later rfl related quiet
    rcases Filing.between_iff.mp related with way | way
    · exact find?_of_last earlier apart way quiet
    · exact find?_of_last earlier ((b.sameFrame_comm a).trans apart) way fun g hg related =>
        quiet g hg (Filing.between_comm.mp related)

/-- A flattening has torn the two ways apart. A filing that turns an axis round settles both of them,
though it spells a system differently and is not the last one of all. -/
theorem ways_fit_turned :
    let a : Crs := { code := "A" }
    let b : Crs := { code := "B" }
    let doubling : Filing Float := { source := a, target := b, transform := .scaling 2 2 }
    let flattening : Filing Float :=
      { source := { code := " b" }, target := { code := "a", name := some "local" }
        transform := .scaling 1 0 }
    let turning : Filing Float :=
      { source := { code := "b " }, target := a, transform := ⟨-2, 6, 1, 0⟩ }
    let elsewhere : Filing Float :=
      { source := b, target := { code := "C" }, transform := .shifting 1 1 }
    let t := ofFilings [doubling, flattening, turning, elsewhere]
    a.sameFrame b = false ∧ (ofFilings [doubling, flattening]).Torn a b ∧
      t.find? (b.key, a.key) = some ⟨-2, 6, 1, 0⟩ ∧
      t.find? (a.key, b.key) = some ⟨-0.5, 3, 1, -0.0⟩ := by
  intro a b doubling flattening turning elsewhere t
  have apart : a.sameFrame b = false := by decide
  have torn : (ofFilings [doubling, flattening]).Torn a b :=
    ⟨.scaling 2 2, .scaling 1 0, by decide +kernel, by decide +kernel, by decide +kernel,
      by decide +kernel⟩
  obtain ⟨-, settled⟩ := ways_fit [doubling, flattening, turning, elsewhere] a b apart
  have related : turning.Between a b := by decide +kernel
  have quiet : ∀ g ∈ [elsewhere], ¬ g.Between a b := by decide +kernel
  obtain ⟨there, back⟩ := settled [doubling, flattening] turning [elsewhere] rfl related quiet
  have way : turning.way = (b.key, a.key) := by decide +kernel
  have wayBack : turning.wayBack = (a.key, b.key) := by decide +kernel
  have inverse : turning.transform.inverse = some ⟨-0.5, 3, 1, -0.0⟩ := by decide +kernel
  exact ⟨apart, torn, (congrArg t.find? way).symm.trans there,
    (congrArg t.find? wayBack).symm.trans (back _ inverse)⟩

/-- The flattened way there leads back through what the doubling has left. -/
theorem torn_by_flattening :
    let a : Crs := { code := "A" }
    let b : Crs := { code := "B" }
    let t : TransformTable Float := ofFilings
      [{ source := a, target := b, transform := .scaling 2 2 },
        { source := a, target := b, transform := .scaling 0 1 }]
    a.sameFrame b = false ∧ t.Torn a b ∧
      t.reproject { extent := ⟨0, 1, 4, 5⟩, crs := a } b =
        .ok { extent := ⟨0, 1, 0, 5⟩, crs := b } ∧
      t.reproject { extent := ⟨0, 1, 0, 5⟩, crs := b } a =
        .ok { extent := ⟨0, 0.5, 0, 2.5⟩, crs := a } := by
  intro a b t
  have torn : t.Torn a b :=
    ⟨.scaling 0 1, ⟨0.5, -0.0, 0.5, -0.0⟩, by decide +kernel, by decide +kernel, by decide +kernel,
      by decide +kernel⟩
  exact ⟨by decide, torn, by decide +kernel, by decide +kernel⟩

end TransformTable
end LayeredMap

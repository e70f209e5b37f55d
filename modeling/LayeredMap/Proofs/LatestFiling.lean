import Mathlib.Data.Finset.Card
import LayeredMap.Proofs.Filing

/-!
# The latest filing counts

From one system to another a filing offers its transform, or the inverse if it
was meant for the opposite direction and has one. Between two systems a table
goes by the last filing that offers something, whether it was meant for this
direction or not, and whatever was filed before or elsewhere. The size of a table
is the number of routes on which something has been offered.
-/

namespace LayeredMap

variable {α : Type} [Coordinate α]

namespace Filing

/-- What a filing contributes to the way from one system to another. -/
def offer? (f : Filing α) (a b : Crs) : Option (Affine α) :=
  if f.source.sameFrame a && f.target.sameFrame b then some f.transform
  else if f.source.sameFrame b && f.target.sameFrame a then f.transform.inverse
  else none

/-- The routes on which a filing leaves a transform. -/
def routes (f : Filing α) : List Route :=
  if f.transform.inverse.isSome then [f.way, f.wayBack] else [f.way]

variable {f : Filing α} {a b : Crs}

theorem offer?_eq (f : Filing α) (a b : Crs) : f.offer? a b =
    if (a.key, b.key) = f.way then some f.transform
    else if (a.key, b.key) = f.wayBack then f.transform.inverse
    else none := by
  simp only [offer?, way, wayBack, Bool.and_eq_true, Crs.sameFrame_iff_key_eq, Prod.mk.injEq,
    @eq_comm _ a.key, @eq_comm _ b.key, and_comm]

/-- Between spellings of one system there are no two directions. -/
theorem card_routes_of_sameFrame (same : f.source.sameFrame f.target = true) :
    f.routes.toFinset.card = 1 := by
  have back : f.wayBack = f.way := by
    rw [way, wayBack, Crs.sameFrame_iff_key_eq.mp same]
  rw [routes, back]
  split <;> simp

end Filing

namespace TransformTable

variable {t : TransformTable α} {a b : Crs}

/-! ## The way between two systems -/

/-- A filing offers something and is used, or all stays as it was. -/
theorem find?_file_eq_or (t : TransformTable α) (f : Filing α) (a b : Crs) :
    (t.file f).find? (a.key, b.key) = (f.offer? a b).or (t.find? (a.key, b.key)) := by
  rw [find?_file, Filing.offer?_eq]
  split_ifs <;> simp

theorem find?_ofFilings (fs : List (Filing α)) (a b : Crs) :
    (ofFilings fs).find? (a.key, b.key) = fs.reverse.findSome? (·.offer? a b) := by
  induction fs using List.reverseRecOn with
  | nil => rfl
  | append_singleton fs f ih =>
    rw [ofFilings_concat, find?_file_eq_or _ f, ih, List.reverse_concat, List.findSome?_cons]
    cases f.offer? a b <;> rfl

/-- The way is that of the last filing that offers one. -/
theorem find?_ofFilings_eq_some_iff {fs : List (Filing α)} {m : Affine α} :
    (ofFilings fs).find? (a.key, b.key) = some m ↔
      ∃ earlier f later, fs = earlier ++ f :: later ∧ f.offer? a b = some m ∧
        ∀ g ∈ later, g.offer? a b = none := by
  rw [find?_ofFilings fs a b, List.findSome?_eq_some_iff]
  constructor
  · rintro ⟨later, f, earlier, split, offer, quiet⟩
    refine ⟨earlier.reverse, f, later.reverse, ?_, offer, ?_⟩
    · rw [← List.reverse_inj, split]
      simp
    · simpa using quiet
  · rintro ⟨earlier, f, later, rfl, offer, quiet⟩
    exact ⟨later.reverse, f, earlier.reverse, by simp, offer, by simpa using quiet⟩

theorem find?_ofFilings_eq_none_iff {fs : List (Filing α)} :
    (ofFilings fs).find? (a.key, b.key) = none ↔ ∀ f ∈ fs, f.offer? a b = none := by
  rw [find?_ofFilings fs a b, List.findSome?_eq_none_iff]
  simp

theorem reproject_of_sameFrame (t : TransformTable α) (f : Footprint α) {target : Crs}
    (same : f.crs.sameFrame target = true) :
    t.reproject f target = .ok { extent := f.extent, crs := target } := by
  rw [reproject, if_pos same]

theorem reproject_of_find?_none {f : Footprint α} {target : Crs}
    (apart : f.crs.sameFrame target = false) (absent : t.find? (f.crs.key, target.key) = none) :
    t.reproject f target = .error (.noTransform f.crs.code target.code) := by
  rw [reproject, apart, if_neg Bool.false_ne_true, absent]

theorem reproject_of_find?_some {f : Footprint α} {target : Crs} {m : Affine α}
    (apart : f.crs.sameFrame target = false) (filed : t.find? (f.crs.key, target.key) = some m) :
    t.reproject f target =
      if (m.apply f.extent).isEmpty then .error (.degenerate f.crs.code target.code)
      else .ok { extent := m.apply f.extent, crs := target } := by
  rw [reproject, apart, if_neg Bool.false_ne_true, filed]

/-! ## The number of routes -/

def routes (t : TransformTable α) : List Route := t.entries.map (·.1)

omit [Coordinate α] in
theorem mem_routes_put {r r' : Route} {m : Affine α} :
    r ∈ (t.put r' m).routes ↔ r = r' ∨ r ∈ t.routes := by
  by_cases same : r = r' <;> simp [routes, put, same]

omit [Coordinate α] in
theorem nodup_routes_put {r : Route} {m : Affine α} (distinct : t.routes.Nodup) :
    (t.put r m).routes.Nodup := by
  refine List.nodup_cons.mpr ⟨by simp, ?_⟩
  exact distinct.sublist (List.filter_sublist.map _)

theorem mem_routes_file {f : Filing α} {r : Route} :
    r ∈ (t.file f).routes ↔ r ∈ f.routes ∨ r ∈ t.routes := by
  rw [file, register, Filing.routes]
  cases f.transform.inverse <;>
    simp [mem_routes_put, Filing.way, Filing.wayBack, or_assoc]

theorem nodup_routes_file {f : Filing α} (distinct : t.routes.Nodup) :
    (t.file f).routes.Nodup := by
  rw [file, register]
  cases f.transform.inverse with
  | none => exact nodup_routes_put distinct
  | some inverse => exact nodup_routes_put (nodup_routes_put distinct)

theorem nodup_routes_ofFilings (fs : List (Filing α)) : (ofFilings fs).routes.Nodup := by
  induction fs using List.reverseRecOn with
  | nil => exact List.nodup_nil
  | append_singleton fs f ih =>
    rw [ofFilings_concat]
    exact nodup_routes_file ih

theorem mem_routes_ofFilings {fs : List (Filing α)} {r : Route} :
    r ∈ (ofFilings fs).routes ↔ r ∈ fs.flatMap Filing.routes := by
  induction fs using List.reverseRecOn with
  | nil => simp [ofFilings, routes]
  | append_singleton fs f ih =>
    rw [ofFilings_concat, mem_routes_file, ih, List.flatMap_append, List.mem_append,
      List.flatMap_singleton, or_comm]

theorem size_ofFilings (fs : List (Filing α)) :
    (ofFilings fs).size = (fs.flatMap Filing.routes).toFinset.card := by
  have same : (ofFilings fs).routes.toFinset = (fs.flatMap Filing.routes).toFinset := by
    ext r
    rw [List.mem_toFinset, List.mem_toFinset, mem_routes_ofFilings]
  rw [← same, List.toFinset_card_of_nodup (nodup_routes_ofFilings fs), routes, List.length_map,
    size]

/-- Whatever is filed, a table answers a footprint in another system by the last filing that offers
something on the way there: by a failure if there is none or the image is empty, and else by the
image in the system as it was asked for. Within a frame nothing but the system changes. The size of
the table is the number of routes on which something was offered, and a filing between spellings of
one system has a single route. -/
theorem reproject_through_latest (fs : List (Filing α)) (f : Footprint α) (target : Crs) :
    let t := ofFilings fs
    (f.crs.sameFrame target = true →
        t.reproject f target = .ok { extent := f.extent, crs := target }) ∧
      (f.crs.sameFrame target = false → ∀ answer, t.reproject f target = answer ↔
        (∀ g ∈ fs, g.offer? f.crs target = none) ∧
            answer = .error (.noTransform f.crs.code target.code) ∨
          ∃ (earlier : List (Filing α)) (g : Filing α) (later : List (Filing α)) (m : Affine α),
            fs = earlier ++ g :: later ∧ g.offer? f.crs target = some m ∧
              (∀ h ∈ later, h.offer? f.crs target = none) ∧
              answer = if (m.apply f.extent).isEmpty then
                  .error (.degenerate f.crs.code target.code)
                else .ok { extent := m.apply f.extent, crs := target }) ∧
      t.size = (fs.flatMap Filing.routes).toFinset.card ∧
      ∀ g : Filing α, g.source.sameFrame g.target = true → g.routes.toFinset.card = 1 := by
  intro t
  refine ⟨t.reproject_of_sameFrame f, fun apart answer => ?_, size_ofFilings fs,
    fun g => Filing.card_routes_of_sameFrame⟩
  constructor
  · rintro rfl
    cases way : t.find? (f.crs.key, target.key) with
    | none =>
      exact .inl ⟨find?_ofFilings_eq_none_iff.mp way, reproject_of_find?_none apart way⟩
    | some m =>
      obtain ⟨earlier, g, later, split, offer, quiet⟩ := find?_ofFilings_eq_some_iff.mp way
      exact .inr ⟨earlier, g, later, m, split, offer, quiet, reproject_of_find?_some apart way⟩
  · rintro (⟨unrelated, rfl⟩ | ⟨earlier, g, later, m, split, offer, quiet, rfl⟩)
    · exact reproject_of_find?_none apart (find?_ofFilings_eq_none_iff.mpr unrelated)
    · have way := find?_ofFilings_eq_some_iff.mpr ⟨earlier, g, later, split, offer, quiet⟩
      exact reproject_of_find?_some apart way

/-- The last filing between two systems is one that flattens the way back and has no inverse, so the
way there is the inverse of the one before. One filing is between spellings of one system, and one
carries far boxes to infinity. -/
theorem reproject_through_latest_turned :
    let a : Crs := { code := "A" }
    let b : Crs := { code := "B", name := some "site" }
    let c : Crs := { code := "C" }
    let doubling : Filing Float := { source := a, target := b, transform := ⟨2, 10, 2, 0⟩ }
    let turning : Filing Float :=
      { source := { code := "b " }, target := a, transform := ⟨-2, 6, 1, 0⟩ }
    let flattening : Filing Float := { source := b, target := a, transform := .scaling 1 0 }
    let shifting : Filing Float :=
      { source := a, target := { code := "a" }, transform := .shifting 5 5 }
    let stretching : Filing Float := { source := a, target := c, transform := .scaling 1e300 0 }
    let fs := [doubling, turning, flattening, shifting, stretching]
    let f : Footprint Float := { extent := ⟨0, 1, 4, 5⟩, crs := { code := " a" } }
    let far : Footprint Float := { extent := ⟨0, 0, 1e10, 0⟩, crs := a }
    f.crs.sameFrame b = false ∧ far.crs.sameFrame c = false ∧
      (ofFilings fs).reproject f b = .ok { extent := ⟨1, 1, 3, 5⟩, crs := b } ∧
      (ofFilings fs).reproject far c = .error (.degenerate "A" "C") ∧
      (ofFilings fs).reproject f a = .ok { extent := ⟨0, 1, 4, 5⟩, crs := a } ∧
      (ofFilings fs).size = 4 := by
  intro a b c doubling turning flattening shifting stretching fs f far
  have apart : f.crs.sameFrame b = false := by decide +kernel
  have apart' : far.crs.sameFrame c = false := by decide +kernel
  obtain ⟨-, answered, size, -⟩ := reproject_through_latest fs f b
  obtain ⟨-, answered', -, -⟩ := reproject_through_latest fs far c
  obtain ⟨own, -⟩ := reproject_through_latest fs f a
  have turned : turning.offer? f.crs b = some ⟨-0.5, 3, 1, -0.0⟩ := by decide +kernel
  have quiet : ∀ g ∈ [flattening, shifting, stretching], g.offer? f.crs b = none := by
    decide +kernel
  have stretched : stretching.offer? far.crs c = some (.scaling 1e300 0) := by decide +kernel
  refine ⟨apart, apart', (answered apart _).mpr ?_, (answered' apart' _).mpr ?_,
    own (by decide +kernel), size.trans (by decide +kernel)⟩
  · exact .inr ⟨[doubling], turning, _, _, rfl, turned, quiet, by decide +kernel⟩
  · exact .inr ⟨[doubling, turning, flattening, shifting], stretching, [], _, rfl, stretched,
      by simp, by decide +kernel⟩

end TransformTable
end LayeredMap

import LayeredMap.CommandLine
import LayeredMap.Proofs.Building
import LayeredMap.Proofs.Spelling
import LayeredMap.Proofs.ZeroSigns

/-!
# The largest footprint of a manifest

From the text of a manifest to the report. All numbers of the text are finite
and the corners of an entry are sorted, so an entry with an extent yields a
proper box in the system of the entry. The largest footprint is the union of
those that are in reach of the system of the sheet or, without one, of the first
entry with an extent. It has finite corners, and the order in which the corners
of entries are given shows in the signs of zeros at most.
-/

namespace LayeredMap

/-! ## Entries -/

namespace LayerEntry

variable {e e' : LayerEntry} {f : Footprint Float} {box : Extent Float}

/-- An extent that is in order has a system. -/
theorem InOrder.named (ordered : e.InOrder) (h : e.extent = some box) :
    ∃ code, e.crs = some code ∧ Crs.ofText code = .ok { code := Text.trim code } := by
  obtain ⟨bounds, located⟩ := ordered
  rw [footprint, h] at located
  cases known : e.crs with
  | none =>
    rw [known] at located
    exact absurd located nofun
  | some code =>
    rw [known] at located
    obtain ⟨crs, read, -⟩ := bind_eq_ok_iff.mp located
    exact ⟨code, rfl, Crs.eq_of_ofText read ▸ read⟩

theorem footprint_of_extent {code : String} {crs : Crs} (h : e.extent = some box)
    (named : e.crs = some code) (read : Crs.ofText code = .ok crs) : e.footprint = .ok
      (some { extent := .spanning box.minX box.minY box.maxX box.maxY, crs }) := by
  rw [footprint, h, named]
  exact bind_eq_ok_iff.mpr ⟨crs, read, rfl⟩

theorem box?_of_extent (ordered : e.InOrder) (h : e.extent = some box) :
    ∃ code, e.crs = some code ∧ e.box? = some
      { extent := .spanning box.minX box.minY box.maxX box.maxY
        crs := { code := Text.trim code } } := by
  obtain ⟨code, named, read⟩ := ordered.named h
  exact ⟨code, named, box?_eq_some_iff.mpr (footprint_of_extent h named read)⟩

theorem box?_eq_none_iff (ordered : e.InOrder) : e.box? = none ↔ e.extent = none := by
  constructor
  · intro nowhere
    refine Option.eq_none_iff_forall_ne_some.mpr fun box h => ?_
    obtain ⟨code, -, located⟩ := box?_of_extent ordered h
    exact absurd (nowhere.symm.trans located) nofun
  · intro absent
    rw [box?, footprint, absent]
    rfl

theorem proper_of_box? (ordered : e.InOrder)
    (bounded : ∀ box, e.extent = some box → box.isBounded = true) (h : e.box? = some f) :
    f.extent.Proper := by
  obtain ⟨box, there⟩ : ∃ box, e.extent = some box := by
    refine Option.ne_none_iff_exists'.mp fun absent => ?_
    exact absurd (((box?_eq_none_iff ordered).mpr absent).symm.trans h) nofun
  obtain ⟨code, -, located⟩ := box?_of_extent ordered there
  obtain rfl := Option.some.inj (located.symm.trans h)
  exact Extent.proper_spanning_iff.mpr (List.all_eq_true.mp (bounded box there))

/-- On each axis the two ends of the extent are given in either order. -/
structure Exchanged (e e' : LayerEntry) : Prop where
  title : e'.title = e.title
  crs : e'.crs = e.crs
  extent : Option.Rel Extent.SameCorners e.extent e'.extent
  visible : e'.visible = e.visible

/-- An entry stays in order if its corners are exchanged, and its box stays the same up to the signs
of zeros. -/
theorem Exchanged.box? (h : e.Exchanged e') (ordered : e.InOrder)
    (bounded : ∀ box, e.extent = some box → box.isBounded = true) :
    e'.InOrder ∧ Option.Rel Footprint.Akin e.box? e'.box? := by
  have corners := h.extent
  generalize there : e.extent = x, there' : e'.extent = x' at corners
  cases corners with
  | none =>
    have ordered' : e'.InOrder := ⟨none, by rw [footprint, there']⟩
    rw [(box?_eq_none_iff ordered).mpr there, (box?_eq_none_iff ordered').mpr there']
    exact ⟨ordered', .none⟩
  | @some box box' corners =>
    obtain ⟨code, named, read⟩ := ordered.named there
    have located := footprint_of_extent there named read
    have located' := footprint_of_extent there' (h.crs.trans named) read
    rw [box?_eq_some_iff.mpr located, box?_eq_some_iff.mpr located']
    exact ⟨⟨_, located'⟩, .some ⟨rfl, corners.akin (bounded box there)⟩⟩

end LayerEntry

/-! ## The sheet of a manifest -/

namespace Manifest

variable {m : Manifest} {base settings : Settings} {table : TransformTable Float} {w : World}
  {r : SheetRef} {ids ids' : Nat → LayerId}

/-- The system that the manifest names, or else the one of the settings. -/
def preferredCrs (m : Manifest) (base : Settings) : Option Crs :=
  match m.crs with
  | some code => some { code := Text.trim code }
  | none => base.crs

theorem crs_of_settings (ok : m.settings base = .ok settings) :
    settings.crs = m.preferredCrs base := by
  rw [Manifest.settings] at ok
  rw [preferredCrs]
  cases named : m.crs with
  | none =>
    rw [named] at ok
    obtain rfl := Except.ok.inj ok
    rfl
  | some code =>
    rw [named] at ok
    obtain ⟨_, found, ok⟩ := bind_eq_ok_iff.mp ok
    obtain ⟨crs, read, rfl⟩ := map_eq_ok_iff.mp found
    obtain rfl := Except.ok.inj ok
    exact congrArg some (Crs.eq_of_ofText read)

def boxes (m : Manifest) : List (Footprint Float) := m.layers.filterMap LayerEntry.box?

def Bounded (m : Manifest) : Prop := ∀ e ∈ m.layers, ∀ box, e.extent = some box → box.isBounded = true

/-- A sheet with the layers of a manifest, and what their union is. -/
structure Built (m : Manifest) (base : Settings) (w : World) (r : SheetRef)
    (table : TransformTable Float) : Prop where
  ordered : ∀ e ∈ m.layers, e.InOrder
  proper : ∀ f ∈ m.boxes, f.extent.Proper
  reprojector : w.scene.reprojectors r = table.reprojector
  members : (w.members r).map (fun x => (x.1.title, x.2.visible)) =
    m.layers.map fun e => (some e.title, e.visible)
  bounds : (w.maxBoundsOf r).2 = (referenceCrs (m.preferredCrs base) m.boxes).map
    fun target => { extent := .unionAll (table.gather target m.boxes), crs := target }

theorem Parts.built (parts : m.Parts base settings table) (bounded : m.Bounded)
    (fresh : m.Fresh ids) : ∃ w r, m.build base ids = .ok (w, r) ∧ m.Built base w r table := by
  obtain ⟨w, r, ok, held⟩ := parts.build fresh
  have proper : ∀ f ∈ m.boxes, f.extent.Proper := by
    intro f there
    obtain ⟨e, listed, located⟩ := List.mem_filterMap.mp there
    exact LayerEntry.proper_of_box? (parts.layers e listed) (bounded e listed) located
  refine ⟨w, r, ok, parts.layers, proper, held.reprojector, held.shown, ?_⟩
  have united := maxBounds_of_proper table (m.preferredCrs base) (w.surveys r)
  rw [held.reported] at united
  rw [World.maxBoundsOf, World.maxBoundsIn_eq, held.reprojector, held.crs,
    crs_of_settings parts.settled]
  exact united proper

theorem boxes_eq_nil_iff (ordered : ∀ e ∈ m.layers, e.InOrder) :
    m.boxes = [] ↔ ∀ e ∈ m.layers, e.extent = none := by
  rw [boxes, List.filterMap_eq_nil_iff]
  constructor
  · intro nowhere e he
    exact (LayerEntry.box?_eq_none_iff (ordered e he)).mp (nowhere e he)
  · intro absent e he
    exact (LayerEntry.box?_eq_none_iff (ordered e he)).mpr (absent e he)

/-- The first box is that of the first entry with an extent. -/
theorem head?_boxes {e : LayerEntry} {f : Footprint Float} (ordered : ∀ e ∈ m.layers, e.InOrder)
    (first : m.layers.find? (·.extent.isSome) = some e) (located : e.box? = some f) :
    m.boxes.head? = some f := by
  obtain ⟨-, before, after, split, absent⟩ := List.find?_eq_some_iff_append.mp first
  have nowhere : ∀ e' ∈ before, e'.box? = none := by
    intro e' he'
    have listed : e' ∈ m.layers := by simp [split, he']
    exact (LayerEntry.box?_eq_none_iff (ordered e' listed)).mpr (by simpa using absent e' he')
  rw [boxes, split, List.filterMap_append, List.filterMap_eq_nil_iff.mpr nowhere, List.nil_append,
    List.filterMap_cons_some located, List.head?_cons]

namespace Built

theorem result_eq_none_iff (h : m.Built base w r table) : (w.maxBoundsOf r).2 = none ↔
    m.preferredCrs base = none ∧ ∀ e ∈ m.layers, e.extent = none := by
  rw [h.bounds, Option.map_eq_none_iff, referenceCrs, ← boxes_eq_nil_iff h.ordered]
  simp

/-- Without a system of its own the sheet takes that of the first entry with an extent, and what the
entry is about is covered. -/
theorem covers_first (h : m.Built base w r table) (unset : m.preferredCrs base = none)
    {e : LayerEntry} {box : Extent Float} (first : m.layers.find? (·.extent.isSome) = some e)
    (there : e.extent = some box) : ∃ code g, e.crs = some code ∧ (w.maxBoundsOf r).2 = some g ∧
      g.crs = { code := Text.trim code } ∧ g.isEmpty = false ∧
        g.extent.contains (.spanning box.minX box.minY box.maxX box.maxY) = true := by
  have listed : e ∈ m.layers := List.mem_of_find?_eq_some first
  obtain ⟨code, named, located⟩ := LayerEntry.box?_of_extent (h.ordered e listed) there
  have head := head?_boxes h.ordered first located
  generalize own : (⟨.spanning box.minX box.minY box.maxX box.maxY, { code := Text.trim code }⟩ :
    Footprint Float) = f at located head
  have member : f ∈ m.boxes := List.mem_filterMap.mpr ⟨e, listed, located⟩
  have proper := h.proper f member
  have adds : f.extent ∈ table.gather f.crs m.boxes :=
    TransformTable.mem_gather_of_sameFrame member proper f.crs.sameFrame_self
  have united := proper_unionAll (List.ne_nil_of_mem adds) proper_of_mem_gather
  have covers := (Extent.within_iff_contains proper.isNull_eq_false).mp
    (Extent.within_unionAll f.extent adds)
  refine ⟨code, { extent := .unionAll (table.gather f.crs m.boxes), crs := f.crs }, named, ?_, ?_,
    Extent.isEmpty_eq_false_iff.mpr united, ?_⟩
  · rw [h.bounds, referenceCrs, unset, head]
    rfl
  · rw [← own]
  · rw [← own] at covers ⊢
    exact covers

/-- A preferred system is that of the result, and the result is empty if nothing is in reach of it. -/
theorem of_preferred (h : m.Built base w r table) {target : Crs}
    (set : m.preferredCrs base = some target) : ∃ g, (w.maxBoundsOf r).2 = some g ∧ g.crs = target ∧
      (g.isEmpty = true ↔ ¬ ∃ e ∈ m.layers, ∃ f, e.footprint = .ok (some f) ∧
        ((w.scene.reprojectors r).equivalent target f.crs = true ∨
          ∃ g, (w.scene.reprojectors r).reproject f target = .ok g)) := by
  refine ⟨{ extent := .unionAll (table.gather target m.boxes), crs := target }, ?_, rfl, ?_⟩
  · rw [h.bounds, referenceCrs, set]
    rfl
  · have reach := (unionAll_contributions table target m.boxes).2
    rw [← Bool.not_eq_false, Footprint.isEmpty, Extent.isEmpty_eq_false_iff, not_iff_not,
      TransformTable.gather, reach, h.reprojector, table.equivalent_reprojector,
      table.reproject_reprojector]
    constructor
    · rintro ⟨f, member, -, related⟩
      obtain ⟨e, listed, located⟩ := List.mem_filterMap.mp member
      exact ⟨e, listed, f, LayerEntry.box?_eq_some_iff.mp located, related⟩
    · rintro ⟨e, listed, f, located, related⟩
      have member : f ∈ m.boxes :=
        List.mem_filterMap.mpr ⟨e, listed, LayerEntry.box?_eq_some_iff.mpr located⟩
      exact ⟨f, member, Extent.isEmpty_eq_false_iff.mpr (h.proper f member), related⟩

theorem isBounded (h : m.Built base w r table) {g : Footprint Float}
    (result : (w.maxBoundsOf r).2 = some g) : g.extent.isBounded = true := by
  rw [h.bounds] at result
  obtain ⟨target, -, rfl⟩ := Option.map_eq_some_iff.mp result
  rcases (unionAll_contributions table target m.boxes).1 with null | proper
  · have covered : (Extent.null : Extent Float).isBounded = true := by decide
    exact null.symm ▸ covered
  · exact Extent.isBounded_iff.mpr
      ⟨proper.minX_finite, proper.minY_finite, proper.maxX_finite, proper.maxY_finite⟩

end Built

/-! ## Exchanging corners -/

/-- The entries are in order and their boxes bounded, and the ends of some of them are exchanged. -/
theorem exchanged_entries {layers : List LayerEntry} (ordered : ∀ e ∈ m.layers, e.InOrder)
    (bounded : m.Bounded) (h : List.Forall₂ LayerEntry.Exchanged m.layers layers) :
    List.Forall₂ (fun e e' => e'.InOrder ∧ Option.Rel Footprint.Akin e.box? e'.box?) m.layers
      layers := by
  have each : List.Forall₂ (fun e e' => (e.InOrder ∧ ∀ box, e.extent = some box →
      box.isBounded = true) ∧ e.Exchanged e') m.layers layers :=
    (List.forall₂_and_left _ _).mpr ⟨fun e he => ⟨ordered e he, bounded e he⟩, h⟩
  exact each.imp fun e e' h => h.2.box? h.1.1 h.1.2

theorem Bounded.exchanged {layers : List LayerEntry} (bounded : m.Bounded)
    (h : List.Forall₂ LayerEntry.Exchanged m.layers layers) :
    ({ m with layers } : Manifest).Bounded := by
  refine forall_mem_of_forall₂ h fun e he e' exchanged box' there' => ?_
  have corners := exchanged.extent
  generalize there : e.extent = x at corners
  rw [there'] at corners
  cases corners with
  | some corners => exact corners.isBounded (bounded e he _ there)

theorem referenceCrs_akin {preferred : Option Crs} {fs gs : List (Footprint Float)}
    (h : List.Forall₂ Footprint.Akin fs gs) :
    referenceCrs preferred fs = referenceCrs preferred gs := by
  cases h with
  | nil => rfl
  | cons first _ => simp [referenceCrs, first.crs]

/-- The sheet of the manifest with exchanged corners has the same largest footprint, up to the signs of
zeros, whatever identities are drawn for it. -/
theorem Parts.exchanged (parts : m.Parts base settings table) (bounded : m.Bounded)
    (fresh : m.Fresh ids') (h : m.Built base w r table) {layers : List LayerEntry}
    (exchanged : List.Forall₂ LayerEntry.Exchanged m.layers layers) :
    ∃ w' r', ({ m with layers } : Manifest).build base ids' = .ok (w', r') ∧
      ((w.maxBoundsOf r).2 == (w'.maxBoundsOf r').2) = true := by
  let m' : Manifest := { m with layers }
  have entries := exchanged_entries parts.layers bounded exchanged
  have parts' : m'.Parts base settings table :=
    { settled := parts.settled
      layers := forall_mem_of_forall₂ entries fun e _ e' h => h.1
      filed := parts.filed }
  have fresh' : m'.Fresh ids' := by
    rw [Fresh, ← exchanged.length_eq]
    exact fresh
  obtain ⟨w', r', ok, h'⟩ := parts'.built (bounded.exchanged exchanged) fresh'
  have boxes : List.Forall₂ Footprint.Akin m.boxes m'.boxes :=
    List.rel_filterMap (fun e e' h => h.2) entries
  refine ⟨w', r', ok, ?_⟩
  rw [h.bounds, h'.bounds, ← referenceCrs_akin boxes]
  show (_ == Option.map _ (referenceCrs (m.preferredCrs base) m.boxes)) = true
  cases referenceCrs (m.preferredCrs base) m.boxes with
  | none => rfl
  | some target =>
    exact Bool.and_eq_true_iff.mpr ⟨unionAll_gather_akin boxes, beq_self_eq_true target⟩

end Manifest

/-! ## The report -/

namespace Json

/-- A character that numbers are written with. -/
def Numeric (c : Char) : Prop := c.isDigit = true ∨ c ∈ ['.', 'e', '+', '-']

theorem numeric_toDigits (n : Nat) : ∀ c ∈ Nat.toDigits 10 n, Numeric c := fun _ hc =>
  .inl (Nat.isDigit_of_mem_toDigits (by decide) (by decide) hc)

theorem numeric_placed {ds : List Char} {e : Int} (digits : ∀ c ∈ ds, Numeric c) :
    ∀ c ∈ placed ds e, Numeric c := by
  have zero : Numeric '0' := .inl rfl
  have point : Numeric '.' := .inr (by decide)
  have zeros (n : Nat) : ∀ c ∈ List.replicate n '0', Numeric c := fun c hc =>
    (List.eq_of_mem_replicate hc).symm ▸ zero
  have front (n : Nat) : ∀ c ∈ ds.take n, Numeric c := fun c hc =>
    digits c (List.mem_of_mem_take hc)
  have back (n : Nat) : ∀ c ∈ ds.drop n, Numeric c := fun c hc =>
    digits c (List.mem_of_mem_drop hc)
  rw [placed]
  split
  · split
    · have lead : ∀ c ∈ "0.".toList, Numeric c := by simpa using ⟨zero, point⟩
      exact List.forall_mem_append.mpr ⟨List.forall_mem_append.mpr ⟨lead, zeros _⟩, digits⟩
    · refine List.forall_mem_append.mpr
        ⟨List.forall_mem_append.mpr ⟨front _, zeros _⟩, List.forall_mem_cons.mpr ⟨point, ?_⟩⟩
      split
      · exact List.forall_mem_singleton.mpr zero
      · exact back _
  · refine List.forall_mem_append.mpr ⟨List.forall_mem_append.mpr ⟨front 1, ?_⟩,
      List.forall_mem_cons.mpr ⟨.inr (by decide), List.forall_mem_cons.mpr ⟨?_, numeric_toDigits _⟩⟩⟩
    · have rest := back 1
      split
      · exact fun c hc => absurd hc List.not_mem_nil
      · exact List.forall_mem_cons.mpr ⟨point, rest⟩
    · split <;> exact .inr (by decide)

/-- A finite double is not written as null. -/
theorem ofReal_ne_null {x : Float} (finite : x.isFinite = true) : ofReal x ≠ "null".toList := by
  have numeric : ∀ c ∈ ofReal x, Numeric c := by
    have sign : ∀ c ∈ (if x.toBits.toNat.testBit 63 then ['-'] else []), Numeric c := by
      split
      · exact List.forall_mem_singleton.mpr (.inr (by decide))
      · exact fun c hc => absurd hc List.not_mem_nil
    rw [ofReal, finite, if_neg (by decide)]
    dsimp only
    split
    · exact List.forall_mem_append.mpr ⟨sign, by simp [Numeric]⟩
    · exact List.forall_mem_append.mpr ⟨sign, numeric_placed (numeric_toDigits _)⟩
  intro null
  have letter : Numeric 'n' := numeric 'n' (null ▸ by decide)
  exact absurd letter (by simp [Numeric])

end Json

theorem CommandLine.summarise_of_build {text : String} {m : Manifest} {base : Settings} {w : World}
    {r : SheetRef} {ids : Nat → LayerId} (read : Manifest.ofText text = .ok m)
    (ok : m.build base ids = .ok (w, r)) :
    summarise base (.ok text) ids = .ok (.ofSheet w r) := by
  refine bind_eq_ok_iff.mpr ⟨text, rfl, ?_⟩
  dsimp only
  rw [read]
  refine bind_eq_ok_iff.mpr ⟨m, rfl, ?_⟩
  rw [ok]
  rfl

/-- For every manifest that is read from a text and built, if distinct identities are drawn: the
sheet has a layer for each entry, in order, with its title and visibility. There is no largest
footprint exactly if neither the manifest nor the settings name a system and no entry has an extent.
Without such a system the first entry with an extent gives the system, and its box is contained. With
one the result is in this system, and it is empty exactly if no footprint of an entry is in an
equivalent system or can be reprojected. The corners are finite, so none of them is null in the
summary. Exchanging the ends of an axis in any of the entries does not matter, up to the signs of
zeros, and neither do the identities that are drawn then. -/
theorem Manifest.maxBounds_of_text (text : String) (base : Settings) (ids : Nat → LayerId)
    (m : Manifest) (w : World) (r : SheetRef) (read : ofText text = .ok m)
    (built : m.build base ids = .ok (w, r)) (fresh : m.Fresh ids) :
    let result := (w.maxBoundsOf r).2
    let reprojector := w.scene.reprojectors r
    (w.members r).map (fun x => (x.1.title, x.2.visible)) =
        m.layers.map (fun e => (some e.title, e.visible)) ∧
      (result = none ↔ m.preferredCrs base = none ∧ ∀ e ∈ m.layers, e.extent = none) ∧
      (m.preferredCrs base = none → ∀ e box, m.layers.find? (·.extent.isSome) = some e →
        e.extent = some box → ∃ code g, e.crs = some code ∧ result = some g ∧
          g.crs = { code := Text.trim code } ∧ g.isEmpty = false ∧
            g.extent.contains (.spanning box.minX box.minY box.maxX box.maxY) = true) ∧
      (∀ target, m.preferredCrs base = some target → ∃ g, result = some g ∧ g.crs = target ∧
        (g.isEmpty = true ↔ ¬ ∃ e ∈ m.layers, ∃ f, e.footprint = .ok (some f) ∧
          (reprojector.equivalent target f.crs = true ∨
            ∃ g, reprojector.reproject f target = .ok g))) ∧
      (∀ g, result = some g → g.extent.isBounded = true) ∧
      (∃ s, CommandLine.summarise base (.ok text) ids = .ok s ∧ s.maxBounds = result ∧
        ∀ g, s.maxBounds = some g → ∀ x ∈ [g.extent.minX, g.extent.minY, g.extent.maxX,
          g.extent.maxY], Json.ofReal x ≠ "null".toList) ∧
      ∀ layers ids', List.Forall₂ LayerEntry.Exchanged m.layers layers → m.Fresh ids' → ∃ w' r',
        ({ m with layers } : Manifest).build base ids' = .ok (w', r') ∧
          (result == (w'.maxBoundsOf r').2) = true := by
  intro result reprojector
  have bounded : m.Bounded := isBounded_of_ofText read
  obtain ⟨settings, table, parts⟩ := exists_parts built
  obtain ⟨w', r', ok, h⟩ := parts.built bounded fresh
  obtain ⟨rfl, rfl⟩ := Prod.mk.inj (Except.ok.inj (ok.symm.trans built))
  refine ⟨h.members, h.result_eq_none_iff, fun unset e box => h.covers_first unset,
    fun target => h.of_preferred, fun g => h.isBounded, ?_, fun layers ids' exchanged fresh' =>
      parts.exchanged bounded fresh' h exchanged⟩
  refine ⟨_, CommandLine.summarise_of_build read built, rfl, ?_⟩
  intro g found x corner
  exact Json.ofReal_ne_null (List.all_eq_true.mp (h.isBounded found) x corner)

/-- Two of three layers have an extent, one of them with its corners exchanged, and the second is
carried over and turned round. -/
theorem Manifest.maxBounds_of_text_turned :
    let text := "\x7b\"transforms\": [[\"B\", \"a\", [2, 0, -1]]], \"layers\": [[\"x\"], " ++
      "[\"y\", \" A\", [3, 0, 1, 2], false], [\"z\", \"b\", [4, 5, 6, 7.5]]]\x7d"
    let g : Footprint Float := { extent := ⟨1, -7.5, 12, 2⟩, crs := { code := "A" } }
    let ids (i : Nat) : LayerId := .numbered (9 - i)
    ∃ m w r, ofText text = .ok m ∧ m.build {} ids = .ok (w, r) ∧ m.Fresh ids ∧
      (w.members r).map (fun x => (x.1.title, x.2.visible)) =
        m.layers.map (fun e => (some e.title, e.visible)) ∧
      (w.maxBoundsOf r).2 = some g ∧
      (∃ s, CommandLine.summarise {} (.ok text) ids = .ok s ∧ s.maxBounds = some g) ∧
      g.extent.isBounded = true := by
  intro text g ids
  have run : ((ofText text).toOption.bind fun m => (m.build {} ids).toOption.map fun x =>
      (m.layers.length, (x.1.maxBoundsOf x.2).2)) = some (3, some g) := by decide +kernel
  obtain ⟨m, read, run⟩ := Option.bind_eq_some_iff.mp run
  obtain ⟨⟨w, r⟩, built, run⟩ := Option.map_eq_some_iff.mp run
  obtain ⟨count, result⟩ := Prod.mk.inj run
  have read : ofText text = .ok m := toOption_eq_some_iff.mp read
  have built : m.build {} ids = .ok (w, r) := toOption_eq_some_iff.mp built
  have fresh : m.Fresh ids := by
    rw [Fresh, count]
    decide
  obtain ⟨shown, -, -, -, bounded, ⟨s, summary, same, -⟩, -⟩ :=
    maxBounds_of_text text {} ids m w r read built fresh
  exact ⟨m, w, r, read, built, fresh, shown, result, ⟨s, summary, same.trans result⟩,
    bounded g result⟩

end LayeredMap

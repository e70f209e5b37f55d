import LayeredMap.Proofs.Batch
import LayeredMap.Proofs.LatestFiling
import LayeredMap.Proofs.ManifestBounds

/-!
# Faults of a manifest

Many parts of a manifest may be at fault at once. All faults are listed here in
the order of the parts: the system of the sheet, the layers, the transforms.
Each part of the building yields a value that is known beforehand, unless there
is a fault among those of the part, and so does the whole: it fails with the
first fault of the list, and succeeds if the list is empty.
-/

namespace LayeredMap

/-- The value if there is no fault, and else the first fault. -/
def verdict {α : Type} (a : α) : List Failure → Except Failure α
  | [] => .ok a
  | f :: _ => .error f

section Verdicts

variable {α β : Type} {a a' : α} {b : β} {fs gs : List Failure}

theorem verdict_eq_ok_iff : verdict a fs = .ok a' ↔ fs = [] ∧ a' = a := by
  cases fs with
  | nil =>
    constructor
    · exact fun ok => ⟨rfl, (Except.ok.inj ok).symm⟩
    · exact fun h => congrArg Except.ok h.2.symm
  | cons f fs => exact ⟨nofun, nofun⟩

theorem verdict_eq_error_iff {f : Failure} : verdict a fs = .error f ↔ fs.head? = some f := by
  cases fs with
  | nil => exact ⟨nofun, nofun⟩
  | cons g gs =>
    constructor
    · exact fun h => congrArg some (Except.error.inj h)
    · exact fun h => congrArg Except.error (Option.some.inj h)

/-- What comes first is judged first. -/
theorem verdict_bind {k : α → Except Failure β} (next : k a = verdict b gs) :
    verdict a fs >>= k = verdict b (fs ++ gs) := by
  cases fs with
  | nil => exact next
  | cons f fs => rfl

theorem verdict_bind_ok {k : α → Except Failure β} (next : k a = .ok b) :
    verdict a fs >>= k = verdict b fs := by
  cases fs with
  | nil => exact next
  | cons f fs => rfl

theorem mapM_verdict {f : α → Except Failure β} {value : α → β} {faults : α → List Failure}
    {as : List α} (each : ∀ a, f a = verdict (value a) (faults a)) :
    as.mapM f = verdict (as.map value) (as.flatMap faults) := by
  induction as with
  | nil => exact List.mapM_nil
  | cons a as ih =>
    rw [List.mapM_cons, each a, List.flatMap_cons]
    refine verdict_bind ?_
    rw [ih]
    exact verdict_bind_ok rfl

theorem foldlM_verdict {f : β → α → Except Failure β} {value : β → α → β}
    {faults : α → List Failure} {as : List α} (each : ∀ b a, f b a = verdict (value b a) (faults a)) :
    as.foldlM f b = verdict (as.foldl value b) (as.flatMap faults) := by
  induction as generalizing b with
  | nil => rfl
  | cons a as ih =>
    rw [List.foldlM_cons, each b a, List.flatMap_cons]
    exact verdict_bind ih

end Verdicts

/-! ## Faults -/

namespace Crs

/-- A blank code names no system. -/
def faults (code : String) : List Failure :=
  if Text.allBlank code then [.invalidCrs "empty crs code"] else []

theorem ofText_eq_verdict (code : String) :
    ofText code = verdict { code := Text.trim code } (faults code) := by
  rw [ofText, ofCode?, Text.isEmpty_trim, faults]
  cases Text.allBlank code <;> rfl

theorem faults_eq_nil_iff {code : String} : faults code = [] ↔ Text.allBlank code = false := by
  rw [faults]
  cases Text.allBlank code <;> simp

end Crs

/-- An extent has to be in a system; without an extent the system is not looked at. -/
def LayerEntry.faults (e : LayerEntry) : List Failure :=
  match e.extent, e.crs with
  | none, _ => []
  | some _, none => [.manifest ("layer '" ++ e.title ++ "' has an envelope but no crs")]
  | some _, some code => Crs.faults code

def TransformEntry.faults (e : TransformEntry) : List Failure :=
  Crs.faults e.source ++ Crs.faults e.target

/-- The transform as it is filed. -/
def TransformEntry.filing (e : TransformEntry) : Filing Float :=
  { source := { code := Text.trim e.source }
    target := { code := Text.trim e.target }
    transform := e.transform }

namespace LayerEntry

variable {e : LayerEntry}

theorem footprint_eq_verdict (e : LayerEntry) : e.footprint = verdict e.box? e.faults := by
  rw [box?, faults, footprint]
  cases e.extent with
  | none => rfl
  | some box =>
    cases e.crs with
    | none => rfl
    | some code =>
      show _ = verdict _ (Crs.faults code)
      simp only [Crs.ofText_eq_verdict]
      cases Crs.faults code <;> rfl

theorem faults_eq_nil_iff : e.faults = [] ↔
    (e.extent ≠ none → ∃ code, e.crs = some code ∧ Text.allBlank code = false) := by
  rw [faults]
  cases e.extent with
  | none => simp
  | some box =>
    cases e.crs with
    | none => simp
    | some code => simp [Crs.faults_eq_nil_iff]

end LayerEntry

theorem TransformEntry.faults_eq_nil_iff {e : TransformEntry} :
    e.faults = [] ↔ Text.allBlank e.source = false ∧ Text.allBlank e.target = false := by
  rw [faults, List.append_eq_nil_iff, Crs.faults_eq_nil_iff, Crs.faults_eq_nil_iff]

namespace Manifest

/-- Everything that is wrong with a manifest, in the order in which it is looked at. -/
def faults (m : Manifest) : List Failure :=
  m.crs.toList.flatMap Crs.faults ++ m.layers.flatMap LayerEntry.faults
    ++ m.transforms.flatMap TransformEntry.faults

def filings (m : Manifest) : List (Filing Float) := m.transforms.map TransformEntry.filing

variable {m : Manifest} {base : Settings}

theorem faults_eq_nil_iff : m.faults = [] ↔
    (∀ code, m.crs = some code → Text.allBlank code = false) ∧
      (∀ e ∈ m.layers, e.extent ≠ none → ∃ code, e.crs = some code ∧ Text.allBlank code = false) ∧
      ∀ e ∈ m.transforms, Text.allBlank e.source = false ∧ Text.allBlank e.target = false := by
  simp only [faults, List.append_eq_nil_iff, List.flatMap_eq_nil_iff, Option.mem_toList,
    Crs.faults_eq_nil_iff, LayerEntry.faults_eq_nil_iff,
    TransformEntry.faults_eq_nil_iff, and_assoc]

theorem settings_eq_verdict (m : Manifest) (base : Settings) : m.settings base =
    verdict { base with title := m.title <|> base.title, crs := m.preferredCrs base }
      (m.crs.toList.flatMap Crs.faults) := by
  rw [Manifest.settings, preferredCrs]
  cases m.crs with
  | none => rfl
  | some code =>
    simp only [Crs.ofText_eq_verdict, Option.toList_some, List.flatMap_singleton]
    cases Crs.faults code <;> rfl

theorem fixedLayers_eq_verdict (m : Manifest) (ids : Nat → LayerId) :
    m.fixedLayers ids = verdict (m.fixed ids) (m.layers.flatMap LayerEntry.faults) := by
  have listed : m.layers.zipIdx.flatMap (fun x => x.1.faults) = m.layers.flatMap LayerEntry.faults := by
    rw [← List.flatMap_map (f := Prod.fst) (g := LayerEntry.faults), List.zipIdx_map_fst]
  rw [fixedLayers, fixed, ← listed]
  refine mapM_verdict fun x => ?_
  show (x.1.footprint >>= fun bounds => pure _) = _
  rw [LayerEntry.footprint_eq_verdict]
  exact verdict_bind_ok rfl

theorem transformTable_eq_verdict (m : Manifest) : m.transformTable =
    verdict (.ofFilings m.filings) (m.transforms.flatMap TransformEntry.faults) := by
  rw [transformTable, TransformTable.ofFilings, filings, List.foldl_map]
  refine foldlM_verdict fun t e => ?_
  rw [Crs.ofText_eq_verdict, Crs.ofText_eq_verdict]
  exact verdict_bind (verdict_bind_ok rfl)

/-- If nothing is at fault the sheet has what the manifest asks for. -/
theorem build_eq_verdict (m : Manifest) (base : Settings) (ids : Nat → LayerId) : ∃ w : World,
    m.build base ids = verdict (w, ⟨0⟩) m.faults ∧
      (w.sheet ⟨0⟩).title = (m.title <|> base.title) ∧
      (w.sheet ⟨0⟩).effectiveCrs = m.preferredCrs base ∧
      w.scene.reprojectors ⟨0⟩ = (TransformTable.ofFilings m.filings).reprojector := by
  let settings : Settings := { base with title := m.title <|> base.title, crs := m.preferredCrs base }
  let table := TransformTable.ofFilings m.filings
  let handles := handlesOf (m.fixed ids)
  let start := World.furnished settings (m.fixed ids) table
  let filled := start.perform ⟨0⟩ (·.addAll handles)
  have live : (start.sheet ⟨0⟩).disposed = false := rfl
  obtain ⟨count, settled⟩ := Sheet.addAll_of_live live handles
  have sheet : filled.1.sheet ⟨0⟩ = (start.sheet ⟨0⟩).heaped _ :=
    (World.sheet_perform _ _ _ _).trans ((if_pos rfl).trans settled)
  let n := (Sheet.pushAll (start.sheet ⟨0⟩).stack handles).2.length
  refine ⟨filled.1.note (.sheetBuilt n m.transforms.length), ?_, ?_, ?_, ?_⟩
  · rw [Manifest.build, settings_eq_verdict, fixedLayers_eq_verdict, transformTable_eq_verdict,
      faults, List.append_assoc]
    refine verdict_bind (verdict_bind (verdict_bind_ok ?_))
    show (filled.2 >>= fun added =>
      pure (filled.1.note (.sheetBuilt added m.transforms.length), (⟨0⟩ : SheetRef))) = _
    rw [show filled.2 = _ from count]
    rfl
  · exact congrArg Sheet.title sheet
  · exact (congrArg Sheet.effectiveCrs sheet).trans
      (Sheet.effectiveCrs_ofSettings settings.title settings.crs)
  · have scene := World.scene_perform start ⟨0⟩ (·.addAll handles)
    exact congrArg (·.reprojectors ⟨0⟩) scene

/-- For every manifest and all settings, whatever identities are drawn. Building succeeds exactly if
the system of the sheet is not blank where there is one, each layer with an extent has a system that
is not blank, and no transform has a blank end; an entry without an extent may do without a system.
Otherwise the failure is the first fault: that of the sheet, or else of the first layer at fault,
which is named if its system is missing, or else of the first transform at fault. If building
succeeds, title and system are those of the manifest where it has them and those of the settings
where it has not, and systems are related as by a table in which the transforms were filed in
order. -/
theorem build_fails_at_first (m : Manifest) (base : Settings) (ids : Nat → LayerId) :
    ((∃ w r, m.build base ids = .ok (w, r)) ↔
      (∀ code, m.crs = some code → Text.allBlank code = false) ∧
        (∀ e ∈ m.layers, e.extent ≠ none →
          ∃ code, e.crs = some code ∧ Text.allBlank code = false) ∧
        ∀ e ∈ m.transforms, Text.allBlank e.source = false ∧ Text.allBlank e.target = false) ∧
      (∀ f, m.build base ids = .error f ↔ m.faults.head? = some f) ∧
      ∀ w r, m.build base ids = .ok (w, r) →
        (w.sheet r).title = (m.title <|> base.title) ∧
        (w.sheet r).effectiveCrs = m.preferredCrs base ∧
        (∀ a b, (w.scene.reprojectors r).equivalent a b = a.sameFrame b) ∧
        ∀ f target, (w.scene.reprojectors r).reproject f target =
          (TransformTable.ofFilings m.filings).reproject f target := by
  obtain ⟨w, built, title, crs, table⟩ := m.build_eq_verdict base ids
  rw [built, ← faults_eq_nil_iff]
  refine ⟨?_, fun f => verdict_eq_error_iff, fun w' r ok => ?_⟩
  · constructor
    · rintro ⟨w', r, ok⟩
      exact (verdict_eq_ok_iff.mp ok).1
    · exact fun faultless => ⟨w, ⟨0⟩, verdict_eq_ok_iff.mpr ⟨faultless, rfl⟩⟩
  · obtain ⟨rfl, rfl⟩ := Prod.mk.inj (verdict_eq_ok_iff.mp ok).2
    refine ⟨title, crs, fun a b => ?_, fun f target => ?_⟩
    · rw [table, TransformTable.equivalent_reprojector]
    · rw [table, TransformTable.reproject_reprojector]

/-- Three entries and a transform are at fault besides an entry that has no extent, and a second
manifest is spotless. -/
theorem build_fails_at_first_crowded :
    let unplaced : LayerEntry := { title := "a", crs := some " " }
    let unnamed : LayerEntry := { title := "b", extent := some ⟨0, 0, 1, 1⟩ }
    let blank : LayerEntry := { title := "c", crs := some "\t", extent := some ⟨0, 0, 1, 1⟩ }
    let broken : TransformEntry := { source := "A", target := "", transform := .scaling 2 2 }
    let sound : TransformEntry := { source := " A", target := "B", transform := .scaling 2 2 }
    let m : Manifest := { crs := some " B ", transforms := [broken], layers := [unplaced, unnamed, blank] }
    let m' : Manifest := { title := some "t", transforms := [sound], layers := [unplaced] }
    let base : Settings := { crs := some .wgs84 }
    let ids : Nat → LayerId := fun _ => .numbered 7
    m.faults.length = 3 ∧
      m.build base ids = .error (.manifest "layer 'b' has an envelope but no crs") ∧
      ∃ w r, m'.build base ids = .ok (w, r) ∧ (w.sheet r).title = some "t" ∧
        (w.sheet r).effectiveCrs = some .wgs84 := by
  intro unplaced unnamed blank broken sound m m' base ids
  obtain ⟨-, failure, -⟩ := build_fails_at_first m base ids
  obtain ⟨success, -, built⟩ := build_fails_at_first m' base ids
  have spotless : m'.faults = [] := by decide +kernel
  obtain ⟨w, r, ok⟩ := success.mpr (faults_eq_nil_iff.mp spotless)
  obtain ⟨title, crs, -, -⟩ := built w r ok
  exact ⟨by decide +kernel, (failure _).mpr (by decide +kernel), w, r, ok, title, crs⟩

end Manifest

end LayeredMap

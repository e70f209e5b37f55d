import LayeredMap.Manifest
import LayeredMap.Proofs.Containment
import LayeredMap.Proofs.Documents

/-!
# What is built from a manifest

Building fails exactly if a part of the manifest is at fault. Otherwise there is
a sheet with one layer for each entry, in order. Nobody is subscribed while it
is built, so the layers and their switches are those that the entries ask for,
and what the layers report are the footprints of the entries.
-/

namespace LayeredMap

/-! ## Layers that nobody listens to -/

/-- The action touches no layer and nobody hears of it. -/
def Action.Quiet : Action → Prop
  | .note _ => True
  | .publish roster _ => roster.toList = []
  | _ => False

namespace World

variable {w : World} {r : SheetRef}

theorem act_quiet {a : Action} (quiet : a.Quiet) :
    (act r w a).scene = w.scene ∧ (act r w a).stage.flags = w.stage.flags := by
  cases a with
  | note n => exact ⟨rfl, rfl⟩
  | publish roster e =>
    have nobody : roster.toList = [] := quiet
    refine ⟨rfl, ?_⟩
    rw [act, Scene.notify, Roster.notify, nobody, Roster.deliverAll]
  | _ => exact quiet.elim

theorem foldl_act_quiet {actions : List Action} (quiet : ∀ a ∈ actions, a.Quiet) :
    (actions.foldl (act r) w).scene = w.scene ∧
      (actions.foldl (act r) w).stage.flags = w.stage.flags := by
  induction actions generalizing w with
  | nil => exact ⟨rfl, rfl⟩
  | cons a rest ih =>
    obtain ⟨first, others⟩ := List.forall_mem_cons.mp quiet
    obtain ⟨scene, flags⟩ := act_quiet (w := w) (r := r) first
    obtain ⟨scene', flags'⟩ := ih (w := act r w a) others
    exact ⟨scene'.trans scene, flags'.trans flags⟩

end World

namespace Sheet

theorem pushAll_of_distinct {ls : List LayerHandle} {s : Stack}
    (distinct : Distinct (s.layers ++ ls)) : pushAll s ls = ({ layers := s.layers ++ ls }, ls) := by
  induction ls generalizing s with
  | nil => simp [pushAll]
  | cons l ls ih =>
    have unknown : s.contains l.id = false := by
      have apart : (s.layers.map (·.id)).Disjoint ((l :: ls).map (·.id)) := by
        rw [Distinct, List.map_append] at distinct
        exact List.disjoint_of_nodup_append distinct
      refine Stack.contains_eq_false_iff.mpr fun m held same => ?_
      exact apart (List.mem_map.mpr ⟨m, held, same⟩) (by simp)
    have grown : Distinct (({ layers := s.layers ++ [l] } : Stack).layers ++ ls) := by
      simpa using distinct
    rw [pushAll_of_new unknown]
    simp only [ih grown, List.append_assoc, List.cons_append, List.nil_append]

/-- A new sheet takes in layers of distinct identities, and nobody hears of it. -/
theorem addAll_new (title : Option String) (crs : Option Crs) {ls : List LayerHandle}
    (distinct : Distinct ls) :
    let step := (ofSettings title crs).addAll ls
    step.result = .ok ls.length ∧
      step.sheet = { ofSettings title crs with stack := { layers := ls } } ∧
        ∀ a ∈ step.actions, a.Quiet := by
  have pushed : pushAll (ofSettings title crs).stack ls = ({ layers := ls }, ls) :=
    pushAll_of_distinct distinct
  have live : (ofSettings title crs).disposed = false := rfl
  rw [addAll, whenLive, live, if_neg Bool.false_ne_true, pushed]
  cases ls with
  | nil => exact ⟨rfl, rfl, fun a ha => absurd ha List.not_mem_nil⟩
  | cons l ls =>
    have unheard : (l :: ls).flatMap (ofSettings title crs).entering = [] :=
      List.flatMap_eq_nil_iff.mpr fun _ _ => rfl
    refine ⟨rfl, rfl, ?_⟩
    show ∀ a ∈ (l :: ls).flatMap (ofSettings title crs).entering ++ _, a.Quiet
    rw [unheard, List.nil_append, List.forall_mem_cons, List.forall_mem_singleton]
    exact ⟨trivial, rfl⟩

theorem effectiveCrs_ofSettings (title : Option String) (crs : Option Crs) :
    (ofSettings title crs).effectiveCrs = crs := by
  cases crs <;> rfl

end Sheet

/-- The layers of a sheet with their switches, from the bottom up. -/
def World.members (w : World) (r : SheetRef) : List (Layer × Flags) :=
  (w.sheet r).layers.map fun l => (w.layer l.object, w.stage.flags l.object)

/-- The sheet has a title, a system, layers and a table of transforms. -/
structure World.Holds (w : World) (r : SheetRef) (settings : Settings)
    (layers : List (Layer × Flags)) (table : TransformTable Float) : Prop where
  title : (w.sheet r).title = settings.title
  crs : (w.sheet r).effectiveCrs = settings.crs
  members : w.members r = layers
  reprojector : w.scene.reprojectors r = table.reprojector

/-- The layers as objects of their own, numbered in the order given. -/
def handlesOf (layers : List (Layer × Flags)) : List LayerHandle :=
  layers.zipIdx.map fun ((l, _), i) => { object := i, id := l.id }

theorem ids_handlesOf (layers : List (Layer × Flags)) :
    (handlesOf layers).map (·.id) = layers.map (·.1.id) := by
  have split : (fun (x : (Layer × Flags) × Nat) => x.1.1.id) = (fun x => x.1.id) ∘ Prod.fst := rfl
  rw [handlesOf, List.map_map]
  show layers.zipIdx.map (fun x => x.1.1.id) = _
  rw [split, ← List.map_map, List.zipIdx_map_fst]

namespace World

/-- The world in which a sheet is to be filled with layers. -/
def furnished (settings : Settings) (layers : List (Layer × Flags))
    (table : TransformTable Float) : World :=
  ((World.opening layers []).create "map" (.ofSettings settings.title settings.crs)
    table.reprojector).1

variable {settings : Settings} {layers : List (Layer × Flags)} {table : TransformTable Float}

/-- In a world with the given layers, each handle leads to the layer it was made for. -/
theorem members_of_handlesOf {w : World} {r : SheetRef} (stack : (w.sheet r).layers = handlesOf layers)
    (scene : w.scene.layers = (opening layers []).scene.layers)
    (flags : w.stage.flags = (opening layers []).stage.flags) : w.members r = layers := by
  rw [members, stack, handlesOf, List.map_map]
  refine List.ext_getElem (by simp) fun i inside inside' => ?_
  simp [layer, scene, flags, opening, inside']

theorem perform_addAll (settings : Settings) (table : TransformTable Float)
    (fresh : (layers.map (·.1.id)).Nodup) :
    let filled := (furnished settings layers table).perform ⟨0⟩ (·.addAll (handlesOf layers))
    filled.2 = .ok layers.length ∧ filled.1.Holds ⟨0⟩ settings layers table := by
  intro filled
  have distinct : Distinct (handlesOf layers) := by
    rw [Distinct, ids_handlesOf]
    exact fresh
  have start : (furnished settings layers table).sheet ⟨0⟩ =
      .ofSettings settings.title settings.crs := rfl
  obtain ⟨count, settled, quiet⟩ :=
    Sheet.addAll_new settings.title settings.crs distinct
  rw [← start] at count settled quiet
  have sheet : filled.1.sheet ⟨0⟩ = _ := (sheet_perform _ _ _ _).trans (if_pos rfl)
  rw [settled, start] at sheet
  obtain ⟨scene, flags⟩ : filled.1.scene = _ ∧ filled.1.stage.flags = _ := foldl_act_quiet quiet
  have layers_kept := congrArg Scene.layers scene
  constructor
  · rw [show filled.2 = _ from count, handlesOf, List.length_map, List.length_zipIdx]
  · exact
      { title := congrArg Sheet.title sheet
        crs := (congrArg Sheet.effectiveCrs sheet).trans
          (Sheet.effectiveCrs_ofSettings settings.title settings.crs)
        members := members_of_handlesOf (congrArg Sheet.layers sheet) layers_kept flags
        reprojector := congrFun (congrArg Scene.reprojectors scene) ⟨0⟩ }

end World

/-! ## Entries -/

/-- Attempts that succeed with known results are made for a whole list. -/
theorem mapM_eq_ok_map_iff {ε α β : Type} {f : α → Except ε β} {fits : α → Prop} {g : α → β}
    (each : ∀ a b, f a = .ok b ↔ fits a ∧ b = g a) {as : List α} {bs : List β} :
    as.mapM f = .ok bs ↔ (∀ a ∈ as, fits a) ∧ bs = as.map g := by
  have same : List.Forall₂ (fun a b => b = g a) as bs ↔ bs = as.map g := by
    rw [← List.forall₂_eq_eq_eq, List.forall₂_map_right_iff]
    exact ⟨.flip, .flip⟩
  simp only [mapM_eq_ok_iff, each, List.forall₂_and_left, same]

namespace LayerEntry

variable {e : LayerEntry} {f : Footprint Float}

/-- Where the layer of the entry is, unless the entry is at fault. -/
def box? (e : LayerEntry) : Option (Footprint Float) := e.footprint.toOption.join

def InOrder (e : LayerEntry) : Prop := ∃ bounds, e.footprint = .ok bounds

/-- The layer of an entry, with its switches. -/
def made (e : LayerEntry) (id : LayerId) : Layer × Flags :=
  ({ id, body := .fixed { title := e.title, bounds := e.box? } },
    { visible := e.visible })

theorem box?_eq_some_iff : e.box? = some f ↔ e.footprint = .ok (some f) := by
  rw [box?, Option.join_eq_some_iff, toOption_eq_some_iff]

theorem footprint?_made (e : LayerEntry) (id : LayerId) : (e.made id).1.survey.footprint? = e.box? := by
  cases h : e.box? <;> simp [made, Layer.survey, Layer.report, Survey.footprint?, h]

end LayerEntry

namespace Manifest

variable {m : Manifest} {base settings : Settings} {layers : List (Layer × Flags)}
  {table : TransformTable Float} {w : World} {r : SheetRef} {ids : Nat → LayerId}

/-- Each entry gets a layer if each of them is in order. -/
theorem fixedLayers_eq_ok_iff : m.fixedLayers ids = .ok layers ↔
    (∀ e ∈ m.layers, e.InOrder) ∧ layers = m.layers.zipIdx.map fun x => x.1.made (ids x.2) := by
  have each (x : LayerEntry × Nat) (y : Layer × Flags) :
      (do
        let bounds ← x.1.footprint
        return ({ id := ids x.2, body := .fixed { title := x.1.title, bounds } },
          { visible := x.1.visible })) = Except.ok (ε := Failure) y ↔
        x.1.InOrder ∧ y = x.1.made (ids x.2) := by
    rw [bind_eq_ok_iff]
    constructor
    · rintro ⟨bounds, located, same⟩
      refine ⟨⟨bounds, located⟩, ?_⟩
      rw [← Except.ok.inj same, LayerEntry.made, LayerEntry.box?, located]
      rfl
    · rintro ⟨⟨bounds, located⟩, rfl⟩
      refine ⟨bounds, located, ?_⟩
      rw [LayerEntry.made, LayerEntry.box?, located]
      rfl
  have listed : (∀ x ∈ m.layers.zipIdx, x.1.InOrder) ↔ ∀ e ∈ m.layers, e.InOrder := by
    rw [← List.forall_mem_map (f := Prod.fst) (P := LayerEntry.InOrder), List.zipIdx_map_fst]
  rw [fixedLayers, ← listed]
  exact mapM_eq_ok_map_iff each

/-- The parts of a manifest that is in order. -/
structure Parts (m : Manifest) (base settings : Settings) (table : TransformTable Float) :
    Prop where
  settled : m.settings base = .ok settings
  layers : ∀ e ∈ m.layers, e.InOrder
  filed : m.transformTable = .ok table

/-- The identities that are drawn for the layers are distinct. -/
def Fresh (m : Manifest) (ids : Nat → LayerId) : Prop :=
  ((List.range m.layers.length).map ids).Nodup

def fixed (m : Manifest) (ids : Nat → LayerId) : List (Layer × Flags) :=
  m.layers.zipIdx.map fun x => x.1.made (ids x.2)

theorem map_fixed {β : Type} {f : Layer × Flags → β} {g : LayerEntry → β}
    (each : ∀ e id, f (e.made id) = g e) : (m.fixed ids).map f = m.layers.map g := by
  refine List.ext_getElem (by simp [fixed]) fun i _ _ => ?_
  simp [fixed, each]

theorem Fresh.nodup (fresh : m.Fresh ids) : ((m.fixed ids).map (·.1.id)).Nodup := by
  have drawn : (m.fixed ids).map (·.1.id) = (List.range m.layers.length).map ids := by
    refine List.ext_getElem (by simp [fixed]) fun i _ _ => ?_
    simp [fixed, LayerEntry.made]
  exact drawn ▸ fresh

theorem Parts.build (parts : m.Parts base settings table) (fresh : m.Fresh ids) :
    ∃ w r, m.build base ids = .ok (w, r) ∧ w.Holds r settings (m.fixed ids) table := by
  obtain ⟨count, filled⟩ := World.perform_addAll settings table fresh.nodup
  have made : m.fixedLayers ids = .ok (m.fixed ids) :=
    fixedLayers_eq_ok_iff.mpr ⟨parts.layers, rfl⟩
  let handles := handlesOf (m.fixed ids)
  let step := (World.furnished settings (m.fixed ids) table).perform ⟨0⟩ (·.addAll handles)
  have run : m.build base ids = step.2.bind fun added =>
      .ok (step.1.note (.sheetBuilt added m.transforms.length), ⟨0⟩) := by
    rw [Manifest.build, parts.settled, made, parts.filed]
    rfl
  rw [show step.2 = _ from count] at run
  exact ⟨_, _, run, filled.title, filled.crs, filled.members, filled.reprojector⟩

theorem exists_parts (ok : m.build base ids = .ok (w, r)) :
    ∃ settings table, m.Parts base settings table := by
  obtain ⟨settings, settled, ok⟩ := bind_eq_ok_iff.mp ok
  obtain ⟨layers, made, ok⟩ := bind_eq_ok_iff.mp ok
  obtain ⟨table, filed, -⟩ := bind_eq_ok_iff.mp ok
  exact ⟨settings, table, settled, (fixedLayers_eq_ok_iff.mp made).1, filed⟩

end Manifest

/-! ## Reports -/

namespace World.Holds

variable {m : Manifest} {settings : Settings} {table : TransformTable Float} {w : World}
  {r : SheetRef} {ids : Nat → LayerId}

/-- The layers report the footprints of the entries. -/
theorem reported (h : w.Holds r settings (m.fixed ids) table) :
    (w.surveys r).filterMap Survey.footprint? = m.layers.filterMap LayerEntry.box? := by
  have asked : (w.surveys r).map Survey.footprint? =
      (w.members r).map fun x => x.1.survey.footprint? := by
    rw [World.surveys, World.members, List.map_map, List.map_map]
    rfl
  have entries : ((m.fixed ids).map fun x => x.1.survey.footprint?) =
      m.layers.map LayerEntry.box? :=
    Manifest.map_fixed LayerEntry.footprint?_made
  have present {β γ : Type} (f : β → Option γ) (l : List β) :
      l.filterMap f = (l.map f).filterMap id := by
    rw [List.filterMap_map]
    rfl
  rw [present, asked, h.members, entries, ← present]

theorem shown (h : w.Holds r settings (m.fixed ids) table) :
    (w.members r).map (fun x => (x.1.title, x.2.visible)) =
      m.layers.map fun e => (some e.title, e.visible) := by
  rw [h.members]
  exact Manifest.map_fixed fun e id => rfl

end World.Holds

end LayeredMap

import Mathlib.Data.List.Nodup
import LayeredMap.Proofs.Action

/-!
# Names of sheets

Only three commands touch names, and each of them one name: it is bound anew
or taken away, and every other name stands for what it stood for. No name is
bound twice, so a sheet that loses its last name loses it by that name.
-/

namespace LayeredMap

/-- The name that a command binds or takes away. -/
def Command.rebinds : Command → Option String
  | .create name .. | .share _ name | .release name => some name
  | _ => none

/-- How many sheets a command makes. -/
def Command.made : Command → Nat
  | .create .. => 1
  | _ => 0

namespace World

variable (w : World)

/-- The names once a command is carried out. -/
def handlesAfter : Command → List (String × SheetRef)
  | .create name .. => (name, ⟨w.sheetsMade⟩) :: w.scene.handles.filter (·.1 ≠ name)
  | .share name another =>
    match w.scene.sheetNamed? name with
    | some r => (another, r) :: w.scene.handles.filter (·.1 ≠ another)
    | none => w.scene.handles
  | .release name => w.scene.handles.filter (·.1 ≠ name)
  | _ => w.scene.handles

/-- What only commands on names change, and what no command does. -/
structure Cast (w : World) (handles : List (String × SheetRef)) (sheetsMade : Nat)
    (conducts : ListenerRef → Conduct) : Prop where
  handles : w.scene.handles = handles
  sheetsMade : w.sheetsMade = sheetsMade
  conducts : w.scene.conducts = conducts

variable {w} {handles : List (String × SheetRef)} {made : Nat} {conducts : ListenerRef → Conduct}

theorem cast_perform {ρ : Type} (h : w.Cast handles made conducts) (r : SheetRef)
    (op : Sheet → Step ρ) : (w.perform r op).1.Cast handles made conducts :=
  ⟨(handles_perform w r op).trans h.handles, (sheetsMade_perform w r op).trans h.sheetsMade,
    (conducts_perform w r op).trans h.conducts⟩

theorem cast_settle (h : w.Cast handles made conducts) (r : SheetRef) :
    (w.settle r).Cast handles made conducts := by
  rw [settle]
  split
  · exact h
  · exact cast_perform h r Sheet.drop

theorem cast_bind (h : w.Cast handles made conducts) (name : String) (r : SheetRef) :
    (w.bind name r).Cast ((name, r) :: handles.filter (·.1 ≠ name)) made conducts := by
  obtain ⟨rfl, rfl, rfl⟩ := h
  rw [bind]
  cases w.scene.sheetNamed? name with
  | none => exact ⟨rfl, rfl, rfl⟩
  | some old => exact cast_settle ⟨rfl, rfl, rfl⟩ old

theorem cast_notes (h : w.Cast handles made conducts) (ns : List Notice) :
    (ns.foldl note w).Cast handles made conducts := by
  induction ns generalizing w with
  | nil => exact h
  | cons n ns ih => exact ih ⟨h.handles, h.sheetsMade, h.conducts⟩

theorem filter_handles_of_unbound {name : String} (h : w.scene.sheetNamed? name = none) :
    w.scene.handles.filter (·.1 ≠ name) = w.scene.handles := by
  apply List.filter_eq_self.mpr
  intro x hx
  exact decide_eq_true fun same => by simpa [same] using List.lookup_eq_none_iff.mp h x hx

theorem cast_execute (w : World) (c : Command) :
    (w.execute c).1.Cast (w.handlesAfter c) (w.sheetsMade + c.made) w.scene.conducts := by
  have own : w.Cast w.scene.handles w.sheetsMade w.scene.conducts := ⟨rfl, rfl, rfl⟩
  cases c with
  | create name title crs reprojector =>
    exact cast_bind ⟨rfl, rfl, rfl⟩ name _
  | share name another =>
    rw [execute, withSheet, handlesAfter]
    cases w.scene.sheetNamed? name with
    | none => exact own
    | some r => exact cast_bind own another r
  | release name =>
    rw [execute, unbind, handlesAfter]
    cases h : w.scene.sheetNamed? name with
    | none =>
      rw [filter_handles_of_unbound h]
      exact own
    | some r => exact cast_settle ⟨rfl, rfl, rfl⟩ r
  | sheet name c =>
    rw [execute, withSheet]
    cases w.scene.sheetNamed? name with
    | none => exact own
    | some r => exact cast_perform own r _
  | maxBounds name =>
    rw [execute, withSheet]
    cases w.scene.sheetNamed? name with
    | none => exact own
    | some r => exact cast_notes own _
  | maxBoundsIn name preferred =>
    rw [execute, withSheet]
    cases w.scene.sheetNamed? name with
    | none => exact own
    | some r => exact cast_notes own _
  | layer object c =>
    obtain ⟨stage, eq, -⟩ := executeLayer_eq w object c
    rw [execute, eq]
    exact ⟨rfl, rfl, rfl⟩

variable (w)

theorem handles_execute (c : Command) : (w.execute c).1.scene.handles = w.handlesAfter c :=
  (cast_execute w c).handles

theorem lookup_filter_name {name other : String} (h : name ≠ other)
    (handles : List (String × SheetRef)) :
    (handles.filter (·.1 ≠ other)).lookup name = handles.lookup name := by
  induction handles with
  | nil => rfl
  | cons x rest ih =>
    obtain ⟨n, r⟩ := x
    by_cases same : n = other
    · subst same
      simp only [List.lookup_cons, beq_eq_false_iff_ne.mpr h]
      simpa using ih
    · simp only [List.filter_cons, decide_eq_true same, if_true, List.lookup_cons, ih]

theorem lookup_bound {name other : String} (h : name ≠ other) (r : SheetRef)
    (handles : List (String × SheetRef)) :
    ((other, r) :: handles.filter (·.1 ≠ other)).lookup name = handles.lookup name := by
  rw [List.lookup_cons, beq_eq_false_iff_ne.mpr h]
  exact lookup_filter_name h handles

/-- A name that is left alone stands for what it stood for. -/
theorem sheetNamed?_execute {c : Command} {name : String} (h : c.rebinds ≠ some name) :
    (w.execute c).1.scene.sheetNamed? name = w.scene.sheetNamed? name := by
  rw [Scene.sheetNamed?, handles_execute]
  cases c with
  | create other title crs reprojector =>
    exact lookup_bound (fun same => h (congrArg some same.symm)) _ _
  | share source other =>
    rw [handlesAfter]
    cases w.scene.sheetNamed? source with
    | none => rfl
    | some r => exact lookup_bound (fun same => h (congrArg some same.symm)) _ _
  | release other => exact lookup_filter_name (fun same => h (congrArg some same.symm)) _
  | _ => rfl

theorem isOpen_iff {r : SheetRef} : w.scene.isOpen r = true ↔ ∃ x ∈ w.scene.handles, x.2 = r := by
  simp [Scene.isOpen]

theorem mem_of_sheetNamed? {name : String} {r : SheetRef} (h : w.scene.sheetNamed? name = some r) :
    (name, r) ∈ w.scene.handles := by
  obtain ⟨before, after, eq, -⟩ := List.lookup_eq_some_iff.mp h
  rw [eq]
  exact List.mem_append_right before List.mem_cons_self

theorem isOpen_of_sheetNamed? {name : String} {r : SheetRef}
    (h : w.scene.sheetNamed? name = some r) : w.scene.isOpen r = true :=
  (isOpen_iff w).mpr ⟨(name, r), mem_of_sheetNamed? w h, rfl⟩

/-! ## No name is bound twice -/

def NamesOnce : Prop := (w.scene.handles.map (·.1)).Nodup

theorem nodup_filter_name {handles : List (String × SheetRef)} (h : (handles.map (·.1)).Nodup)
    (name : String) : ((handles.filter (·.1 ≠ name)).map (·.1)).Nodup :=
  h.sublist (List.filter_sublist.map _)

theorem nodup_bound {handles : List (String × SheetRef)} (h : (handles.map (·.1)).Nodup)
    (name : String) (r : SheetRef) :
    (((name, r) :: handles.filter (·.1 ≠ name)).map (·.1)).Nodup := by
  rw [List.map_cons, List.nodup_cons]
  refine ⟨?_, nodup_filter_name h name⟩
  intro hmem
  obtain ⟨x, hx, same⟩ := List.mem_map.mp hmem
  exact of_decide_eq_true (List.mem_filter.mp hx).2 same

theorem namesOnce_execute (h : w.NamesOnce) (c : Command) : (w.execute c).1.NamesOnce := by
  rw [NamesOnce, handles_execute]
  cases c with
  | create name title crs reprojector => exact nodup_bound h name _
  | share source name =>
    rw [handlesAfter]
    cases w.scene.sheetNamed? source with
    | none => exact h
    | some r => exact nodup_bound h name r
  | release name => exact nodup_filter_name h name
  | _ => exact h

theorem sheetNamed?_of_mem (h : w.NamesOnce) {name : String} {r : SheetRef}
    (hr : (name, r) ∈ w.scene.handles) : w.scene.sheetNamed? name = some r := by
  obtain ⟨before, after, eq⟩ := List.append_of_mem hr
  refine List.lookup_eq_some_iff.mpr ⟨before, after, eq, ?_⟩
  intro x hx
  rw [NamesOnce, eq, List.map_append, List.nodup_append] at h
  have other := h.2.2 x.1 (List.mem_map_of_mem hx) name (by simp)
  exact bne_iff_ne.mpr (Ne.symm other)

/-- A sheet that is no longer held lost the name that the command binds or takes away. -/
theorem sheetNamed?_of_closed (h : w.NamesOnce) {c : Command} {r : SheetRef}
    (held : w.scene.isOpen r = true) (closed : (w.execute c).1.scene.isOpen r = false) :
    ∃ name, c.rebinds = some name ∧ w.scene.sheetNamed? name = some r := by
  obtain ⟨⟨name, r⟩, hx, rfl⟩ := (isOpen_iff w).mp held
  refine ⟨name, ?_, sheetNamed?_of_mem w h hx⟩
  by_contra other
  have kept := (sheetNamed?_execute w other).trans (sheetNamed?_of_mem w h hx)
  rw [isOpen_of_sheetNamed? _ kept] at closed
  exact Bool.false_ne_true closed.symm

end World
end LayeredMap

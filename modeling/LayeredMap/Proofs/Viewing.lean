import LayeredMap.Proofs.Attendance
import LayeredMap.Proofs.Order

/-!
# Following a viewport through a run

Whether a new viewport is stored and which parts of it are published is decided
by one comparison, under which an area with NaN in it differs from itself and
zeros of either sign are the same. It is symmetric, and this is enough: nothing
is stored exactly when nothing is published. So somebody who takes over the new
viewport from each event has the viewport of the sheet at any time, down to the
sign of a zero.
-/

namespace LayeredMap

/-! ## The comparison of viewports -/

theorem Double.beq_comm (x y : Float) : (x == y) = (y == x) := by
  rw [Bool.eq_iff_iff, beq_iff, beq_iff]
  exact And.comm

theorem Extent.beq_comm (a b : Extent Float) : (a == b) = (b == a) := by
  have parts (a b : Extent Float) : (a == b) =
      (a.minX == b.minX && (a.minY == b.minY && (a.maxX == b.maxX && a.maxY == b.maxY))) := rfl
  rw [parts, parts, Double.beq_comm a.minX, Double.beq_comm a.minY, Double.beq_comm a.maxX,
    Double.beq_comm a.maxY]

theorem Footprint.beq_comm (a b : Footprint Float) : (a == b) = (b == a) := by
  have parts (a b : Footprint Float) : (a == b) = (a.extent == b.extent && a.crs == b.crs) := rfl
  rw [parts, parts, Extent.beq_comm, BEq.comm (a := a.crs)]

theorem Footprint.option_beq_comm (a b : Option (Footprint Float)) : (a == b) = (b == a) := by
  cases a with
  | none => cases b <;> rfl
  | some f =>
    cases b with
    | none => rfl
    | some g => exact f.beq_comm g

theorem Viewport.beq_eq (a b : Viewport) :
    (a == b) = (a.bounds == b.bounds && decide (a.crs = b.crs)) := by
  rw [← beq_eq_decide]
  rfl

namespace Sheet

variable (old new : Viewport)

/-- The parts that differ, seen from the new viewport. -/
theorem changedParts_eq : changedParts old new =
    (if new.bounds == old.bounds then [] else [.bounds])
      ++ (if new.crs = old.crs then [] else [.crs]) := by
  have bounds : (if old.bounds != new.bounds then [ViewportPart.bounds] else []) =
      if new.bounds == old.bounds then [] else [.bounds] := by
    rw [bne, Footprint.option_beq_comm]
    cases new.bounds == old.bounds <;> rfl
  have crs : (if old.crs ≠ new.crs then [ViewportPart.crs] else []) =
      if new.crs = old.crs then [] else [.crs] := by
    rw [ite_not]
    exact if_congr eq_comm rfl rfl
  rw [changedParts, bounds, crs]

theorem changedParts_sublist : (changedParts old new).Sublist [.bounds, .crs] := by
  rw [changedParts_eq]
  cases new.bounds == old.bounds <;> by_cases same : new.crs = old.crs <;> simp [same]

theorem mem_changedParts_bounds :
    .bounds ∈ changedParts old new ↔ (new.bounds == old.bounds) = false := by
  rw [changedParts_eq]
  cases new.bounds == old.bounds <;> by_cases same : new.crs = old.crs <;> simp [same]

theorem mem_changedParts_crs : .crs ∈ changedParts old new ↔ new.crs ≠ old.crs := by
  rw [changedParts_eq]
  cases new.bounds == old.bounds <;> by_cases same : new.crs = old.crs <;> simp [same]

/-- Nothing is published exactly when nothing is stored. -/
theorem changedParts_eq_nil_iff : changedParts old new = [] ↔ (new == old) = true := by
  rw [changedParts_eq, Viewport.beq_eq]
  cases new.bounds == old.bounds <;> by_cases same : new.crs = old.crs <;> simp [same]

end Sheet

/-! ## One operation -/

/-- The viewport that an operation is to set, given the one before. -/
def SheetCommand.view? (old : Viewport) : SheetCommand → Option Viewport
  | setViewport v => some v
  | setCrs crs => some { old with crs }
  | setBounds bounds => some { old with bounds }
  | _ => none

/-- The viewport that somebody goes by who takes over the new one from an event. -/
def Event.view (old : Viewport) : Event → Viewport
  | viewport e => e.new
  | _ => old

namespace Sheet

variable {s : Sheet} {op : SheetCommand} {new : Viewport}

theorem step_of_view? (h : op.view? s.currentViewport = some new) :
    ∃ update, op.step s = (s.updateViewport update).map (.ofResult fun _ => .done) ∧
      update s.currentViewport = new := by
  cases op with
  | setViewport v => exact ⟨_, rfl, Option.some.inj h⟩
  | setCrs crs => exact ⟨_, rfl, Option.some.inj h⟩
  | setBounds bounds => exact ⟨_, rfl, Option.some.inj h⟩
  | _ => exact absurd h (Option.some_ne_none new).symm

/-- The parts that differ are published, and the new viewport is there unless it equals the old. -/
theorem view_step (live : s.disposed = false) (h : op.view? s.currentViewport = some new) :
    (op.step s).result = .done ∧
      publications (op.step s).actions = (changedParts s.currentViewport new).map (fun part =>
        (s.viewportListeners, .viewport { part, old := s.currentViewport, new })) ∧
      (op.step s).sheet.currentViewport =
        if new == s.currentViewport then s.currentViewport else new := by
  obtain ⟨update, step, rfl⟩ := step_of_view? h
  rw [step]
  cases same : update s.currentViewport == s.currentViewport with
  | true =>
    rw [updateViewport_of_same live same, (changedParts_eq_nil_iff _ _).mpr same, if_pos rfl]
    exact ⟨rfl, rfl, rfl⟩
  | false =>
    rw [updateViewport_of_new live same, if_neg Bool.false_ne_true]
    exact ⟨rfl, publications_parts s _ _ _, rfl⟩

theorem topic?_of_view? (old : Viewport) :
    op.topic? = some .viewport ↔ ∃ new, op.view? old = some new := by
  cases op <;> simp [SheetCommand.topic?, SheetCommand.view?]

theorem spoken_viewport (live : s.disposed = false) (aims : op.view? s.currentViewport = some new) :
    spoken .viewport (op.step s).actions = (changedParts s.currentViewport new).map fun part =>
      .viewport { part, old := s.currentViewport, new } := by
  have about := (topic?_of_view? s.currentViewport).mpr ⟨new, aims⟩
  rw [spoken_of_topic s about, (view_step live aims).2.1, List.map_map]
  rfl

theorem foldl_view (old new : Viewport) (parts : List ViewportPart) :
    (parts.map fun part => Event.viewport { part, old, new }).foldl Event.view old =
      if parts = [] then old else new := by
  rcases List.eq_nil_or_concat parts with rfl | ⟨first, last, rfl⟩
  · rfl
  · simp [Event.view]

end Sheet

open World

/-- The events on the viewport lead to the viewport that is there afterwards. -/
theorem viewport_informs :
    Informs .viewport (fun _ _ => True) Sheet.currentViewport Event.view where
  apart b e apart := by
    cases e with
    | viewport e => exact absurd rfl apart
    | _ => rfl
  margin s s' same := congrArg (fun v : Option Viewport => v.getD {}) same.viewport
  step s op sound _ before after := by
    by_cases about : op.topic? = some .viewport
    · obtain ⟨new, aims⟩ := (Sheet.topic?_of_view? s.currentViewport).mp about
      obtain ⟨-, -, now⟩ := Sheet.view_step before aims
      rw [Sheet.spoken_viewport before aims, Sheet.foldl_view, now]
      exact if_congr (Sheet.changedParts_eq_nil_iff _ _) rfl rfl
    · rw [Sheet.spoken_of_other sound about]
      exact congrArg (fun v : Option Viewport => v.getD {})
        (s.viewport_step about (Sheet.ne_dispose_of_live after)).symm

namespace World

variable {w : World} {name : String} {r : SheetRef} {l : ListenerRef} {c : Command}

/-- What a command comes to that is to set the viewport of a sheet. The parts that differ are
published, the area before the system, each with both viewports; everyone who listens is told of
them in the world in which the new viewport is set. -/
structure Shifts (w : World) (c : Command) (r : SheetRef) (l : ListenerRef) (old new : Viewport)
    (parts : List ViewportPart) : Prop where
  reply : (w.execute c).2 = .done
  order : parts.Sublist [.bounds, .crs]
  silent : parts = [] ↔ (new == old) = true
  bounds : .bounds ∈ parts ↔ (new.bounds == old.bounds) = false
  crs : .crs ∈ parts ↔ new.crs ≠ old.crs
  publishes : w.Publishes c r
    (parts.map fun part => ((w.sheet r).viewportListeners, .viewport { part, old, new }))
  shown : parts ≠ [] → ((w.execute c).1.scene.sheets r).currentViewport = new
  kept : parts = [] → ((w.execute c).1.scene.sheets r).currentViewport = old
  hears : Stage.Adds (Delivery.regards .viewport l) w.stage (w.execute c).1.stage
    (parts.map fun part => (w.execute c).1.scene.told (.viewport { part, old, new }) l)

theorem shifts_of_call {op : SheetCommand} {new : Viewport} (h : w.Attends .viewport r l)
    (live : (w.sheet r).disposed = false) (called : w.call? r c = some op)
    (aims : op.view? (w.sheet r).currentViewport = some new) :
    w.Shifts c r l (w.sheet r).currentViewport new
      (Sheet.changedParts (w.sheet r).currentViewport new) := by
  let old := (w.sheet r).currentViewport
  obtain ⟨done, published, now⟩ := Sheet.view_step live aims
  obtain ⟨sheet, reply⟩ := execute_of_call? called
  have publishes := publishes_of_call h.sound called
  have hears := hears_execute h c
  have there : ((w.execute c).1.scene.sheets r).currentViewport = if new == old then old else new :=
    (congrArg Sheet.currentViewport sheet).trans now
  have silent := Sheet.changedParts_eq_nil_iff old new
  rw [published] at publishes
  rw [spokenBy, called, Option.map_some, Option.getD_some, Sheet.spoken_viewport live aims,
    List.map_map] at hears
  refine ⟨reply.trans done, Sheet.changedParts_sublist old new, silent,
    Sheet.mem_changedParts_bounds old new, Sheet.mem_changedParts_crs old new, publishes, ?_, ?_,
    hears⟩
  · intro some_differ
    rw [there, if_neg fun same => some_differ (silent.mpr same)]
  · intro none_differ
    rw [there, if_pos (silent.mp none_differ)]

end World
end LayeredMap

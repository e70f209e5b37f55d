import LayeredMap.Proofs.Boxes
import LayeredMap.Proofs.Viewing

/-!
# Parts of a viewport that are left alone

An operation on the viewport names the part that it sets, or sets both. The
other part is compared all the same, and so is a part that is set to what it is.
This goes unnoticed unless the area has NaN among its corners: such an area
differs from itself, and every operation that leaves it alone reports it as
changed. Nothing else is ever reported that was not touched.
-/

namespace LayeredMap

/-- An area that has NaN among its corners, so that it does not equal itself. -/
def Viewport.clouded (v : Viewport) : Bool :=
  v.bounds.any fun f =>
    [f.extent.minX, f.extent.minY, f.extent.maxX, f.extent.maxY].any Coordinate.isNaN

theorem Double.beq_self (x : Float) : (x == x) = !Coordinate.isNaN x := by
  rw [Bool.eq_iff_iff, beq_iff, Bool.not_eq_true', Coordinate.isNaN_eq_false_iff]
  exact and_self_iff

theorem Extent.beq_self (e : Extent Float) :
    (e == e) = !([e.minX, e.minY, e.maxX, e.maxY].any Coordinate.isNaN) := by
  have parts : (e == e) =
      (e.minX == e.minX && (e.minY == e.minY && (e.maxX == e.maxX && e.maxY == e.maxY))) := rfl
  simp only [parts, Double.beq_self, List.any_cons, List.any_nil, Bool.or_false, Bool.not_or]

namespace Viewport

variable {v : Viewport}

theorem beq_bounds_self (v : Viewport) : (v.bounds == v.bounds) = !v.clouded := by
  obtain ⟨bounds, crs⟩ := v
  cases bounds with
  | none => rfl
  | some f =>
    have parts : (some f == some f) = (f.extent == f.extent && f.crs == f.crs) := rfl
    rw [parts, Extent.beq_self, beq_self_eq_true, Bool.and_true]
    rfl

/-- A viewport that is set to what it is tells of its area exactly if that is clouded. -/
theorem changedParts_self (v : Viewport) :
    Sheet.changedParts v v = if v.clouded then [.bounds] else [] := by
  rw [Sheet.changedParts_eq, beq_bounds_self, if_pos rfl, List.append_nil]
  cases v.clouded <;> rfl

theorem mem_changedParts_of_setCrs (v : Viewport) (crs : Option Crs) :
    .bounds ∈ Sheet.changedParts v { v with crs } ↔ v.clouded = true := by
  have untouched : (({ v with crs } : Viewport).bounds == v.bounds) = !v.clouded :=
    v.beq_bounds_self
  rw [Sheet.mem_changedParts_bounds, untouched, Bool.not_eq_false']

theorem not_mem_changedParts_of_setBounds (v : Viewport) (bounds : Option (Footprint Float)) :
    .crs ∉ Sheet.changedParts v { v with bounds } := by
  rw [Sheet.mem_changedParts_crs]
  exact not_not_intro rfl

end Viewport

namespace World

variable {w : World} {name : String} {r : SheetRef}

/-- Whoever listens to the viewport of a live sheet is told of the parts that an operation changes.
Setting the area never tells of the system. Setting the system tells of the area, and setting what
is there already tells of anything, exactly if there is NaN in the area on display; it is the area
then that is told of. -/
theorem viewport_parts_told (reachable : w.Reachable) (named : w.scene.sheetNamed? name = some r)
    (live : (w.sheet r).disposed = false) :
    let old := (w.sheet r).currentViewport
    ∀ (op : SheetCommand) (new : Viewport), op.view? old = some new →
      ∃ parts : List ViewportPart,
        w.Publishes (.sheet name op) r (parts.map fun part =>
          ((w.sheet r).viewportListeners, .viewport { part, old, new })) ∧
        (∀ bounds, op = .setBounds bounds → .crs ∉ parts) ∧
        (∀ crs, op = .setCrs crs → (.bounds ∈ parts ↔ old.clouded = true)) ∧
        (new = old → parts = if old.clouded then [.bounds] else []) := by
  intro old op new aims
  obtain ⟨-, published, -⟩ := Sheet.view_step live aims
  have publishes := publishes_of_call reachable.sound (call?_of_named named op)
  rw [published] at publishes
  refine ⟨Sheet.changedParts old new, publishes, ?_, ?_, ?_⟩
  · rintro bounds rfl
    obtain rfl : { old with bounds } = new := Option.some.inj aims
    exact old.not_mem_changedParts_of_setBounds bounds
  · rintro crs rfl
    obtain rfl : { old with crs } = new := Option.some.inj aims
    exact old.mem_changedParts_of_setCrs crs
  · intro same
    rw [same]
    exact old.changedParts_self

/-- A map with the area on display, and a listener to its viewport. -/
def displaying (area : Extent Float) : World :=
  (opening [] [{}]).run
    [.create "m" none none ({} : TransformTable Float).reprojector,
      .sheet "m" (.listenToViewport ⟨0⟩),
      .sheet "m" (.setBounds (some { extent := area, crs := .wgs84 }))]

/-- With NaN on display the area is told of along with the system that is set, and by itself if the
viewport is set to what it is. The system is not told of along with the area. -/
theorem viewport_parts_told_of_nan :
    let w := displaying ⟨0 / 0, 0, 1, 1⟩
    let old := (w.sheet ⟨0⟩).currentViewport
    let told (op : SheetCommand) (new : Viewport) (parts : List ViewportPart) : Prop :=
      w.Publishes (.sheet "m" op) ⟨0⟩ (parts.map fun part =>
        ((w.sheet ⟨0⟩).viewportListeners, .viewport { part, old, new }))
    (∃ parts, told (.setCrs none) { old with crs := none } parts ∧ .bounds ∈ parts) ∧
      (∃ parts, told (.setBounds none) { old with bounds := none } parts ∧ .crs ∉ parts) ∧
      told (.setViewport old) old [.bounds] := by
  intro w old told
  have reachable : w.Reachable := ⟨_, _, _, rfl⟩
  have named : w.scene.sheetNamed? "m" = some ⟨0⟩ := by decide +kernel
  have live : (w.sheet ⟨0⟩).disposed = false := by decide +kernel
  have clouded : old.clouded = true := by decide +kernel
  have parts_told := viewport_parts_told reachable named live
  obtain ⟨parts, publishes, -, system, -⟩ := parts_told (.setCrs none) _ rfl
  obtain ⟨parts', publishes', area, -⟩ := parts_told (.setBounds none) _ rfl
  obtain ⟨again, publishes'', -, -, itself⟩ := parts_told (.setViewport old) _ rfl
  have just_area : again = [.bounds] := by
    rw [itself rfl]
    exact if_pos clouded
  rw [just_area] at publishes''
  exact ⟨⟨parts, publishes, (system _ rfl).mpr clouded⟩, ⟨parts', publishes', area _ rfl⟩,
    publishes''⟩

end World

/-- The part of a viewport that an event is about. -/
def Event.part? : Event → Option ViewportPart
  | viewport e => some e.part
  | _ => none

/-- A listener hears of the area although the system is all that is set, and although the area is
set to exactly what it is. -/
theorem World.untouched_area_told :
    let w := displaying ⟨0 / 0, 0, 1, 1⟩
    let parts (op : SheetCommand) : List ViewportPart :=
      (heardSince w (w.execute (.sheet "m" op)).1 ⟨0⟩).filterMap fun d => d.event.part?
    parts (.setCrs (some .webMercator)) = [.bounds, .crs] ∧
      parts (.setBounds (w.sheet ⟨0⟩).currentViewport.bounds) = [.bounds] ∧
      parts (.setViewport (w.sheet ⟨0⟩).currentViewport) = [.bounds] := by
  decide +kernel

end LayeredMap

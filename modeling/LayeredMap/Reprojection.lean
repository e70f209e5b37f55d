import LayeredMap.Affine
import LayeredMap.Failure
import LayeredMap.Footprint

/-!
# Relating coordinate systems

A reprojector answers two questions: do two systems name one frame, and what
does a footprint look like in another system. A transform table answers them
from per-axis transforms between codes. Filing a transform files its inverse
for the way back, where there is one; the latest filing for a route counts.
-/
namespace LayeredMap

structure Reprojector (α : Type) where
  equivalent : Crs → Crs → Bool := Crs.sameFrame
  reproject : Footprint α → Crs → Except ReprojectionFailure (Footprint α)

/-- From one code to another. -/
abbrev Route := String × String

structure TransformTable (α : Type) where
  entries : List (Route × Affine α) := []

namespace TransformTable

variable {α : Type}

def find? (t : TransformTable α) (r : Route) : Option (Affine α) := t.entries.lookup r

def put (t : TransformTable α) (r : Route) (a : Affine α) : TransformTable α :=
  { entries := (r, a) :: t.entries.filter (·.1 != r) }

/-- The number of routes with a transform. -/
def size (t : TransformTable α) : Nat := t.entries.length

def isEmpty (t : TransformTable α) : Bool := t.entries.isEmpty

@[simp] theorem find?_empty (r : Route) : ({} : TransformTable α).find? r = none := rfl

private theorem lookup_filter_ne {β : Type} (r r' : Route) (h : r' ≠ r) (l : List (Route × β)) :
    (l.filter (·.1 != r)).lookup r' = l.lookup r' := by
  induction l with
  | nil => rfl
  | cons e l ih =>
    obtain ⟨k, b⟩ := e
    by_cases hk : k = r
    · subst hk
      simp [List.lookup_cons, ih, beq_eq_false_iff_ne.2 h]
    · simp [List.lookup_cons, ih, hk]

@[simp] theorem find?_put (t : TransformTable α) (r r' : Route) (a : Affine α) :
    (t.put r a).find? r' = if r' = r then some a else t.find? r' := by
  by_cases h : r' = r
  · simp [find?, put, h]
  · simp [find?, put, List.lookup_cons, h, beq_eq_false_iff_ne.2 h, lookup_filter_ne r r' h]

variable [Coordinate α]

def register (t : TransformTable α) (source target : Crs) (a : Affine α) : TransformTable α :=
  let back :=
    match a.inverse with
    | some b => t.put (target.key, source.key) b
    | none => t
  back.put (source.key, target.key) a

/-- Between systems of one frame nothing moves. Otherwise the filed transform is applied, and a
result that is empty counts as a failure. -/
def reproject (t : TransformTable α) (f : Footprint α) (target : Crs) :
    Except ReprojectionFailure (Footprint α) :=
  if f.crs.sameFrame target then .ok { f with crs := target }
  else
    match t.find? (f.crs.key, target.key) with
    | none => .error (.noTransform f.crs.code target.code)
    | some a =>
      let moved := a.apply f.extent
      if moved.isEmpty then .error (.degenerate f.crs.code target.code)
      else .ok { extent := moved, crs := target }

def reprojector (t : TransformTable α) : Reprojector α := { reproject := t.reproject }

end TransformTable
end LayeredMap

import LayeredMap.Notice
import LayeredMap.Reprojection

/-!
# The largest footprint

The union of what the layers report, in one system: the preferred one, or else
that of the first layer with bounds that are not empty. Layers in other
systems are reprojected; one that fails to report or to be reprojected is put
on record and passed over. If nothing contributes but a system is known, the
result is nowhere in that system.
-/
namespace LayeredMap

/-- What comes of asking a layer for its bounds. -/
inductive BoundsReport (α : Type) where
  | unknown
  | known (footprint : Footprint α)
  | failed (cause : LayerFailure)
  | crashed (error : String)

/-- A layer's report, under its identity. -/
structure Survey (α : Type) where
  layer : LayerId
  report : BoundsReport α

structure Tally (α : Type) where
  reference : Option Crs
  fallback : Option Crs := none
  extent : Option (Extent α) := none
  notices : List Notice := []

namespace Tally

variable {α : Type}

def note (t : Tally α) (n : Notice) : Tally α := { t with notices := t.notices ++ [n] }

variable [Coordinate α]

def cover (t : Tally α) (e : Extent α) : Tally α :=
  { t with extent := some (match t.extent with
      | some m => m.union e
      | none => e) }

def addFootprint (r : Reprojector α) (t : Tally α) (layer : LayerId) (f : Footprint α) :
    Tally α :=
  if f.isEmpty then { t with fallback := t.fallback <|> some f.crs }
  else
    match t.reference with
    | none => { t with reference := some f.crs, extent := some f.extent }
    | some target =>
      if r.equivalent target f.crs then t.cover f.extent
      else
        match r.reproject f target with
        | .ok g => t.cover g.extent
        | .error e => t.note (.layerSkipped layer e)

def add (r : Reprojector α) (t : Tally α) (s : Survey α) : Tally α :=
  match s.report with
  | .unknown => t
  | .known f => t.addFootprint r s.layer f
  | .failed e => t.note (.boundsUnavailable s.layer e)
  | .crashed e => t.note (.boundsCrashed s.layer e)

def result (t : Tally α) : Option (Footprint α) :=
  (t.reference <|> t.fallback).map fun crs => { extent := t.extent.getD .null, crs }

end Tally

/-- The union over all reports, and what was put on record on the way. -/
def maxBounds {α : Type} [Coordinate α] (r : Reprojector α) (preferred : Option Crs)
    (surveys : List (Survey α)) : Option (Footprint α) × List Notice :=
  let t := surveys.foldl (Tally.add r) { reference := preferred }
  (t.result, t.notices)

end LayeredMap

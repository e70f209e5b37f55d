import LayeredMap.Settings
import LayeredMap.World.Basic

/-!
# Manifests

A manifest lists layers and the transforms between their systems. What it says
of the title and the system of the sheet counts before the settings. Building
checks the system of the sheet, then the layers, then the transforms, and
fails at the first fault. The system of a layer is looked at only if the layer
has an extent, and an extent without a system is a fault. A manifest gives no
identities: each layer gets the one that is drawn for its index, which is the
numbered one if the caller draws no other, and nothing here makes these distinct.
-/
namespace LayeredMap

structure TransformEntry where
  source : String
  target : String
  transform : Affine Float

structure LayerEntry where
  title : String
  crs : Option String := none
  extent : Option (Extent Float) := none
  visible : Bool := true

structure Manifest where
  title : Option String := none
  crs : Option String := none
  transforms : List TransformEntry := []
  layers : List LayerEntry := []

/-- Where a layer is. The corners of an extent may be written in any order. -/
def LayerEntry.footprint (e : LayerEntry) : Except Failure (Option (Footprint Float)) :=
  match e.extent, e.crs with
  | none, _ => .ok none
  | some _, none => .error (.manifest ("layer '" ++ e.title ++ "' has an envelope but no crs"))
  | some x, some code => do
    let crs ← Crs.ofText code
    return some { extent := .spanning x.minX x.minY x.maxX x.maxY, crs }

namespace Manifest

/-- The settings with what the manifest says in their place. -/
def settings (m : Manifest) (base : Settings) : Except Failure Settings := do
  let crs ← match m.crs with
    | none => .ok base.crs
    | some code => some <$> Crs.ofText code
  return { base with title := m.title <|> base.title, crs }

/-- One layer for each entry, in order, with the identity that is drawn for it. -/
def fixedLayers (m : Manifest) (ids : Nat → LayerId := LayerId.numbered) :
    Except Failure (List (Layer × Flags)) :=
  m.layers.zipIdx.mapM fun (e, i) => do
    let bounds ← e.footprint
    return ({ id := ids i, body := .fixed { title := e.title, bounds } },
      { visible := e.visible })

def transformTable (m : Manifest) : Except Failure (TransformTable Float) :=
  m.transforms.foldlM (fun t e => do
    return t.register (← Crs.ofText e.source) (← Crs.ofText e.target) e.transform) {}

/-- A world with the layers of a manifest and a sheet that holds them. -/
def build (m : Manifest) (base : Settings) (ids : Nat → LayerId := LayerId.numbered) :
    Except Failure (World × SheetRef) := do
  let settings ← m.settings base
  let layers ← m.fixedLayers ids
  let table ← m.transformTable
  let (w, r) := (World.opening layers []).create "map"
    (.ofSettings settings.title settings.crs) table.reprojector
  let handles := layers.zipIdx.map fun ((l, _), i) => { object := i, id := l.id }
  let (w, added) := w.perform r (·.addAll handles)
  return (w.note (.sheetBuilt (← added) m.transforms.length), r)

end Manifest
end LayeredMap

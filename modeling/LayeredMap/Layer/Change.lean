import LayeredMap.Layer.Id

/-!
# Changes of a layer

What a layer tells those who listen to it. Switches of visibility and
selection speak for themselves; any other change names the aspect of the layer that it touches.
-/
namespace LayeredMap

inductive Aspect where
  | data
  | style
  | metadata
  | bounds
  deriving DecidableEq

inductive LayerChange where
  | shown
  | hidden
  | selected
  | deselected
  | changed (aspect : Aspect)
  deriving DecidableEq

/-- A change, with the identity of the layer that tells of it. -/
structure LayerEvent where
  layer : LayerId
  change : LayerChange
  deriving DecidableEq

namespace Aspect

def all : List Aspect := [data, style, metadata, bounds]

def label : Aspect → String
  | data => "data"
  | style => "style"
  | metadata => "metadata"
  | bounds => "bounds"

def ofLabel? (s : String) : Option Aspect := all.find? (·.label == s)

end Aspect

namespace LayerChange

def label : LayerChange → String
  | shown => "shown"
  | hidden => "hidden"
  | selected => "selected"
  | deselected => "deselected"
  | changed _ => "changed"

def aspect? : LayerChange → Option Aspect
  | changed r => some r
  | _ => none

end LayerChange
end LayeredMap

import LayeredMap.Instant.Text
import LayeredMap.Json.Value
import LayeredMap.Layer.Change
import LayeredMap.Stack
import LayeredMap.Viewport

/-!
# Events of a sheet

Three kinds: on its stack of layers, on its title and user data, and on its
viewport. Events on the stack also pass on what single layers tell. Single
additions and removals name the layer, batches do not.
-/
namespace LayeredMap

inductive IndexSpan where
  | span (first last : Nat)
  | all
  deriving DecidableEq

namespace IndexSpan

def single (i : Nat) : IndexSpan := span i i

end IndexSpan

inductive StackEvent where
  | added (layer : Option LayerHandle) (range : IndexSpan)
  | removed (layer : Option LayerHandle) (range : IndexSpan)
  | moved (layer : LayerHandle) (toIndex : Nat)
  | changed (layer : LayerHandle) (index : Nat) (source : LayerEvent)
  deriving DecidableEq

namespace StackEvent

def label : StackEvent → String
  | added .. => "layer_added"
  | removed .. => "layer_removed"
  | moved .. => "layer_moved"
  | changed .. => "layer_changed"

/-- The layer that the event names. -/
def layer? : StackEvent → Option LayerHandle
  | added l _ | removed l _ => l
  | moved l _ | changed l _ _ => some l

def source? : StackEvent → Option LayerEvent
  | changed _ _ e => some e
  | _ => none

end StackEvent

/-- A write to the title or to one entry of the user data. Values are absent before a first write,
after a removal, and in events on the whole user data. -/
structure PropertyEvent where
  property : String
  old : Option Json
  new : Option Json

inductive ViewportPart where
  | bounds
  | crs
  deriving DecidableEq

def ViewportPart.label : ViewportPart → String
  | bounds => "bounds"
  | crs => "crs"

structure ViewportEvent where
  part : ViewportPart
  old : Viewport
  new : Viewport

/-- Whatever a listener can be told. -/
inductive Event where
  | stack (e : StackEvent)
  | property (e : PropertyEvent)
  | viewport (e : ViewportEvent)
  | layer (e : LayerEvent)

def Event.label : Event → String
  | stack e => e.label
  | property _ => "property_changed"
  | viewport _ => "map_bounds_changed"
  | layer _ => "layer"

end LayeredMap

import LayeredMap.Failure

/-!
# Notices

What is put on record while a sheet is at work, by cause. Each has a level, a
fixed message and named details.
-/
namespace LayeredMap

inductive Notice where
  | listenerFailed (event : String) (position : Nat) (error : String)
  | boundsUnavailable (layer : LayerId) (cause : LayerFailure)
  | boundsCrashed (layer : LayerId) (error : String)
  | layerSkipped (layer : LayerId) (cause : ReprojectionFailure)
  | layerDisposed (layer : LayerId)
  | strangerIgnored (layer : LayerId)
  | listening (layers : Nat)
  | stoppedListening (layers : Nat)
  | layerAdded (layer : LayerId) (index : Nat)
  | layerInserted (layer : LayerId) (index : Nat)
  | layersAdded (count first last : Nat)
  | layerRemoved (layer : LayerId) (index : Nat)
  | layersRemoved (count first last : Nat)
  | layersSwapped (layer : LayerId) (first last : Nat)
  | layersCleared (count : Nat)
  | sheetDisposed (released : Nat)
  | sheetDropped (layers : Nat)
  | sheetBuilt (layers transforms : Nat)
  deriving DecidableEq

inductive Level where
  | trace
  | debug
  | info
  | warn
  deriving DecidableEq

def Level.label : Level → String
  | trace => "TRACE"
  | debug => "DEBUG"
  | info => "INFO"
  | warn => "WARN"

namespace Notice

def level : Notice → Level
  | listenerFailed .. | boundsUnavailable .. | boundsCrashed .. | sheetDropped .. => .warn
  | layerDisposed .. | strangerIgnored .. => .trace
  | sheetBuilt .. => .info
  | _ => .debug

def message : Notice → String
  | listenerFailed .. => "listener panicked during event delivery"
  | boundsUnavailable .. => "unable to determine layer bounds"
  | boundsCrashed .. => "layer panicked while computing bounds"
  | layerSkipped .. => "skipping layer that cannot be reprojected"
  | layerDisposed .. => "layer disposed"
  | strangerIgnored .. => "ignoring event from non-member layer"
  | listening .. => "listening to layers"
  | stoppedListening .. => "stopped listening to layers"
  | layerAdded .. => "layer added"
  | layerInserted .. => "layer inserted"
  | layersAdded .. => "layers added"
  | layerRemoved .. => "layer removed"
  | layersRemoved .. => "layers removed"
  | layersSwapped .. => "layers swapped"
  | layersCleared .. => "layers cleared"
  | sheetDisposed .. => "map content disposed"
  | sheetDropped .. => "map content dropped without dispose; releasing layers"
  | sheetBuilt .. => "map built from manifest"

/-- The details as texts, identities written by `name`. -/
def details (name : LayerId → String) : Notice → List (String × String)
  | listenerFailed event position error =>
    [("event_type", event), ("listener", toString position), ("error", error)]
  | boundsUnavailable l cause => [("layer", name l), ("error", cause.message name)]
  | boundsCrashed l error => [("layer", name l), ("error", error)]
  | layerSkipped l cause => [("layer", name l), ("error", cause.message)]
  | layerDisposed l | strangerIgnored l => [("layer", name l)]
  | listening n | stoppedListening n | sheetDropped n => [("layers", toString n)]
  | layerAdded l i | layerInserted l i | layerRemoved l i =>
    [("layer", name l), ("index", toString i)]
  | layersAdded n a b | layersRemoved n a b =>
    [("count", toString n), ("from", toString a), ("to", toString b)]
  | layersSwapped l a b => [("layer", name l), ("from", toString a), ("to", toString b)]
  | layersCleared n => [("count", toString n)]
  | sheetDisposed n => [("released", toString n)]
  | sheetBuilt n m => [("layers", toString n), ("transforms", toString m)]

end Notice
end LayeredMap

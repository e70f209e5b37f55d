import LayeredMap.Codec.Geometry
import LayeredMap.Codec.Layer
import LayeredMap.Sheet.Event

/-!
# Events in documents

How events of a sheet are written, each with the time it happened. A range of
indices is told apart from the whole by its label under `span`.
-/
namespace LayeredMap

def IndexSpan.toJson : IndexSpan → Json
  | span first last =>
    .object [("span", .string "span"), ("from", .nat first), ("to", .nat last)]
  | all => .object [("span", .string "all")]

def PropertyEvent.toJson (e : PropertyEvent) (time : Instant) : Json :=
  .object [("property", .string e.property), ("old_value", .option id e.old),
    ("new_value", .option id e.new), ("timestamp", time.toJson)]

def ViewportEvent.toJson (e : ViewportEvent) (time : Instant) : Json :=
  .object [("kind", .string e.part.label),
    ("old_bounds", .option Footprint.toJson e.old.bounds),
    ("new_bounds", .option Footprint.toJson e.new.bounds),
    ("old_crs", .option Crs.toJson e.old.crs), ("new_crs", .option Crs.toJson e.new.crs),
    ("timestamp", time.toJson)]

end LayeredMap

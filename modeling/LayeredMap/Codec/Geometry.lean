import LayeredMap.Affine
import LayeredMap.Json.Decode
import LayeredMap.Json.Printer
import LayeredMap.Viewport

/-!
# Geometry in documents

How boxes, systems, footprints, viewports and transforms are written and read.
Numbers are taken as they stand: a box is not sorted on the way.
-/
namespace LayeredMap

namespace Extent

def toJson (e : Extent Float) : Json :=
  .object [("min_x", .real e.minX), ("min_y", .real e.minY), ("max_x", .real e.maxX),
    ("max_y", .real e.maxY)]

def decode (d : Doc) : Decoded (Extent Float) := do
  let found ← d.record (["min_x", "min_y", "max_x", "max_y"].map (.required · Doc.asFloat))
  return {
    minX := ← found.required "min_x" Doc.asFloat
    minY := ← found.required "min_y" Doc.asFloat
    maxX := ← found.required "max_x" Doc.asFloat
    maxY := ← found.required "max_y" Doc.asFloat }

end Extent

namespace Crs

/-- An absent name is left out. -/
def toJson (c : Crs) : Json :=
  .object (("code", .string c.code) :: (c.name.map fun n => ("name", Json.string n)).toList)

def decode (d : Doc) : Decoded Crs := do
  let found ← d.record
    [.required "code" Doc.asString, .defaulted "name" (Doc.asOption Doc.asString)]
  return {
    code := ← found.required "code" Doc.asString
    name := ← found.optional "name" Doc.asString }

end Crs

namespace Footprint

def toJson (f : Footprint Float) : Json :=
  .object [("envelope", f.extent.toJson), ("crs", f.crs.toJson)]

def decode (d : Doc) : Decoded (Footprint Float) := do
  let found ← d.record [.required "envelope" Extent.decode, .required "crs" Crs.decode]
  return {
    extent := ← found.required "envelope" Extent.decode
    crs := ← found.required "crs" Crs.decode }

end Footprint

namespace Viewport

def toJson (v : Viewport) : Json :=
  .object [("bounds", .option Footprint.toJson v.bounds), ("crs", .option Crs.toJson v.crs)]

def decode (d : Doc) : Decoded Viewport := do
  let found ← d.record [.optional "bounds" Footprint.decode, .optional "crs" Crs.decode]
  return {
    bounds := ← found.optional "bounds" Footprint.decode
    crs := ← found.optional "crs" Crs.decode }

end Viewport

namespace Affine

def toJson (t : Affine Float) : Json :=
  .object [("scale_x", .real t.scaleX), ("offset_x", .real t.offsetX), ("scale_y", .real t.scaleY),
    ("offset_y", .real t.offsetY)]

/-- A shift left out is none. -/
def decode (d : Doc) : Decoded (Affine Float) := do
  let found ← d.record
    [.required "scale_x" Doc.asFloat, .defaulted "offset_x" Doc.asFloat,
      .required "scale_y" Doc.asFloat, .defaulted "offset_y" Doc.asFloat]
  return {
    scaleX := ← found.required "scale_x" Doc.asFloat
    offsetX := ← found.defaulted "offset_x" Doc.asFloat 0
    scaleY := ← found.required "scale_y" Doc.asFloat
    offsetY := ← found.defaulted "offset_y" Doc.asFloat 0 }

end Affine
end LayeredMap

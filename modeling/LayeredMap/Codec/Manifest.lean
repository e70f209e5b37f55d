import LayeredMap.Codec.Geometry
import LayeredMap.Manifest

/-!
# Reading manifests

Everything may be left out but the title of a layer, the two ends of a
transform and the transform itself.
-/
namespace LayeredMap

def TransformEntry.decode (d : Doc) : Decoded TransformEntry := do
  let found ← d.record
    [.required "source" Doc.asString, .required "target" Doc.asString,
      .required "transform" Affine.decode]
  return {
    source := ← found.required "source" Doc.asString
    target := ← found.required "target" Doc.asString
    transform := ← found.required "transform" Affine.decode }

def LayerEntry.decode (d : Doc) : Decoded LayerEntry := do
  let found ← d.record
    [.required "title" Doc.asString, .defaulted "crs" (Doc.asOption Doc.asString),
      .defaulted "envelope" (Doc.asOption Extent.decode), .defaulted "visible" Doc.asBool]
  return {
    title := ← found.required "title" Doc.asString
    crs := ← found.optional "crs" Doc.asString
    extent := ← found.optional "envelope" Extent.decode
    visible := ← found.defaulted "visible" Doc.asBool true }

namespace Manifest

def decode (d : Doc) : Decoded Manifest := do
  let found ← d.record
    [.defaulted "title" (Doc.asOption Doc.asString), .defaulted "crs" (Doc.asOption Doc.asString),
      .defaulted "transforms" (Doc.asList TransformEntry.decode),
      .defaulted "layers" (Doc.asList LayerEntry.decode)]
  return {
    title := ← found.optional "title" Doc.asString
    crs := ← found.optional "crs" Doc.asString
    transforms := ← found.defaulted "transforms" (Doc.asList TransformEntry.decode) []
    layers := ← found.defaulted "layers" (Doc.asList LayerEntry.decode) [] }

def ofText (s : String) : Except Failure Manifest :=
  match Doc.decodeText decode s with
  | .ok m => .ok m
  | .error e => .error (.manifest e.message)

end Manifest
end LayeredMap

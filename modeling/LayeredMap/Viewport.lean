import LayeredMap.Footprint

/-!
# Viewports

The area on display and the system of the sheet. A system set outright counts
before that of the area.
-/
namespace LayeredMap

structure Viewport where
  bounds : Option (Footprint Float) := none
  crs : Option Crs := none
  deriving BEq, DecidableEq

namespace Viewport

def ofCrs (crs : Crs) : Viewport := { crs := some crs }

def effectiveCrs (v : Viewport) : Option Crs := v.crs <|> v.bounds.map (·.crs)

end Viewport
end LayeredMap

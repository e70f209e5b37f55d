import LayeredMap.Crs
import LayeredMap.Extent

/-!
# Footprints

A box together with the system its numbers are in. A null box in a known
system is a result of its own, other than knowing nothing.
-/
namespace LayeredMap

structure Footprint (α : Type) where
  extent : Extent α
  crs : Crs
  deriving BEq, DecidableEq

namespace Footprint

variable {α : Type} [Coordinate α]

def nowhere (crs : Crs) : Footprint α := { extent := .null, crs }

def isEmpty (f : Footprint α) : Bool := f.extent.isEmpty

end Footprint
end LayeredMap

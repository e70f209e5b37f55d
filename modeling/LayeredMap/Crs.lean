import LayeredMap.Text.Blank

/-!
# Coordinate reference systems

A system is known by its authority code. The name is for people: two systems
name the same frame if their codes agree up to surrounding blanks and the case
of ASCII letters.
-/
namespace LayeredMap

structure Crs where
  code : String
  name : Option String := none
  deriving DecidableEq

namespace Crs

def wgs84 : Crs := { code := "EPSG:4326", name := some "WGS 84" }

def webMercator : Crs := { code := "EPSG:3857", name := some "WGS 84 / Pseudo-Mercator" }

def sameFrame (a b : Crs) : Bool := Text.sameLetters (Text.trim a.code) (Text.trim b.code)

/-- The code under which transforms are filed. -/
def key (c : Crs) : String := Text.upperCase (Text.trim c.code)

/-- A code as a person writes it; a blank one names no system. -/
def ofCode? (s : String) : Option Crs :=
  let code := Text.trim s
  if code.isEmpty then none else some { code }

def toText (c : Crs) : String :=
  match c.name with
  | some n => c.code ++ " (" ++ n ++ ")"
  | none => c.code

end Crs
end LayeredMap

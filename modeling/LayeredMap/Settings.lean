import LayeredMap.Crs
import LayeredMap.Failure

/-!
# Settings

What the environment says of a sheet: `MAP_TITLE`, `MAP_CRS`, `MAP_MANIFEST`
and `MAP_OUTPUT_PRETTY`. Blank titles and paths count as absent; a blank
system is refused. Of the flag, only the words for yes and no are understood,
and anything else leaves it as it is.
-/
namespace LayeredMap

structure Settings where
  title : Option String := none
  crs : Option Crs := none
  manifestPath : String := "map.json"
  pretty : Bool := true
  deriving DecidableEq

/-- A code as a person writes it, a blank one being refused. -/
def Crs.ofText (s : String) : Except Failure Crs :=
  match Crs.ofCode? s with
  | some c => .ok c
  | none => .error (.invalidCrs "empty crs code")

namespace Settings

def flag? (s : String) : Option Bool :=
  let s := Text.trim s
  if Text.sameLetters s "true" || s = "1" then some true
  else if Text.sameLetters s "false" || s = "0" then some false
  else none

def nonBlank (s : Option String) : Option String := s.filter (!Text.allBlank ·)

def variableNames : List String := ["MAP_TITLE", "MAP_CRS", "MAP_MANIFEST", "MAP_OUTPUT_PRETTY"]

/-- Reads the settings from a look-up of variables. -/
def ofVariables (lookup : String → Option String) : Except Failure Settings := do
  let crs ← match lookup "MAP_CRS" with
    | none => .ok none
    | some code =>
      match Crs.ofText code with
      | .ok c => .ok (some c)
      | .error e => .error (.invalidSettings ("MAP_CRS: " ++ e.message LayerId.toText))
  return {
    title := nonBlank (lookup "MAP_TITLE")
    crs
    manifestPath := (nonBlank (lookup "MAP_MANIFEST")).getD "map.json"
    pretty := ((lookup "MAP_OUTPUT_PRETTY").bind flag?).getD true }

/-- The steps of a path: doubled and closing slashes, and dots behind the first step, mean
nothing. -/
def pathSteps (path : String) : List (List Char) :=
  match path.toList.splitOn '/' with
  | [] => []
  | first :: rest => first :: rest.filter fun s => !s.isEmpty && s != ['.']

/-- Equal settings, up to the way to write the path. -/
def agree (a b : Settings) : Bool :=
  { a with manifestPath := "" } = { b with manifestPath := "" }
    && pathSteps a.manifestPath = pathSteps b.manifestPath

end Settings
end LayeredMap

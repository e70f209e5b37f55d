import LayeredMap.Codec.Manifest
import LayeredMap.Environment.File
import LayeredMap.FileTree

/-!
# The command line

Builds the sheet of a manifest and writes a summary of it. The manifest is
named by the first argument or else by the settings, which come from the
environment and from a file that adds to it. A failure is written to the other
stream, with the cause indented below if it arose while the sheet was built.
-/
namespace LayeredMap

structure Summary where
  title : Option String
  layers : Nat
  maxBounds : Option (Footprint Float)

namespace Summary

def toJson (s : Summary) : Json :=
  .object [("title", .option .string s.title), ("layers", .nat s.layers),
    ("max_bounds", .option Footprint.toJson s.maxBounds)]

def ofSheet (w : World) (r : SheetRef) : Summary :=
  { title := (w.sheet r).title, layers := (w.sheet r).layerCount, maxBounds := (w.maxBoundsOf r).2 }

end Summary

namespace CommandLine

/-- What a run leaves behind. -/
structure Outcome where
  exitCode : UInt32 := 0
  output : String := ""
  complaint : String := ""

def margin : List Char := List.replicate 4 ' '

/-- Every line of a text moved to the right. -/
def indented (s : String) : String :=
  String.ofList (margin ++ s.toList.flatMap fun c => if c = '\n' then '\n' :: margin else [c])

def Outcome.failure (message : String) (cause : Option String) : Outcome :=
  { exitCode := 1
    complaint := "Error: " ++ message
      ++ ((cause.map fun c => "\n\nCaused by:\n" ++ indented c).getD "") ++ "\n" }

/-- The settings of a run, with the path that the arguments name. -/
def settings (environment : Environment) (file : Option (List UInt8)) (arguments : List String) :
    Except Failure Settings := do
  let environment := (file.map (EnvironmentFile.load environment)).getD environment
  let base ← Settings.ofVariables environment.get?
  return { base with manifestPath := arguments.head?.getD base.manifestPath }

/-- What comes of the manifest, once it was looked for, with the identities drawn for its layers. -/
def summarise (settings : Settings) (manifest : Except ReadFailure String)
    (ids : Nat → LayerId := LayerId.numbered) : Except Outcome Summary := do
  let path := settings.manifestPath
  let text ← match manifest with
    | .ok text => .ok text
    | .error e =>
      let fault : Failure := .manifest (path ++ ": " ++ e.message)
      .error (.failure (fault.message LayerId.toText) none)
  let m ← match Manifest.ofText text with
    | .ok m => .ok m
    | .error e => .error (.failure (e.message LayerId.toText) none)
  match m.build settings ids with
  | .ok (w, r) => return .ofSheet w r
  | .error e =>
    .error (.failure ("building map from " ++ path) (some (e.message LayerId.toText)))

def report (settings : Settings) (manifest : Except ReadFailure String)
    (ids : Nat → LayerId := LayerId.numbered) : Outcome :=
  match summarise settings manifest ids with
  | .ok s =>
    { output := (if settings.pretty then s.toJson.pretty else s.toJson.compact) ++ "\n" }
  | .error o => o

/-- A whole run, given what the files hold. -/
def run (environment : Environment) (file : Option (List UInt8)) (arguments : List String)
    (read : (path : String) → Except ReadFailure String)
    (ids : Nat → LayerId := LayerId.numbered) : Outcome :=
  match settings environment file arguments with
  | .ok s => report s (read s.manifestPath) ids
  | .error e => .failure (e.message LayerId.toText) none

/-- A whole run at a place of a file tree. -/
def runIn (files : FileTree) (here : Place) (environment : Environment)
    (arguments : List String) (ids : Nat → LayerId := LayerId.numbered) : Outcome :=
  run environment (files.nearest? EnvironmentFile.name here) arguments (files.readText here) ids

end CommandLine
end LayeredMap

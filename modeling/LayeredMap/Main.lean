import LayeredMap.CommandLine

/-! The program: gathers the environment and the files, and writes what comes of them. -/
namespace LayeredMap

namespace ReadFailure

/-- The number of an error, which the system may give with its sign turned. -/
def number (code : UInt32) : Nat := code.toInt32.toInt.natAbs

def ofError : IO.Error → ReadFailure
  | .noFileOrDirectory .. => missing
  | .inappropriateType _ code _ => if number code = 20 then notDirectory else directory
  | .invalidArgument _ code _ =>
    if number code = 36 then nameTooLong else refused "Invalid argument" 22
  | .permissionDenied .. => refused "Permission denied" 13
  | e => refused (toString e) 5

end ReadFailure

namespace CommandLine

def readText (path : String) : IO (Except ReadFailure String) := do
  match ← (IO.FS.readBinFile path).toBaseIO with
  | .error e => return .error (.ofError e)
  | .ok bytes =>
    match String.fromUTF8? bytes with
    | some text => return .ok text
    | none => return .error .notText

/-- The nearest environment file, here or in a directory further up. -/
def environmentFile : IO (Option (List UInt8)) := do
  let depth := (← IO.currentDir).components.length
  for up in List.range depth do
    let path := String.join (List.replicate up "../") ++ EnvironmentFile.name
    if let .ok bytes ← (IO.FS.readBinFile path).toBaseIO then
      return some bytes.toList
  return none

/-- What the process finds under the names that can matter to it. No name has a zero in it. -/
def processEnvironment (names : List String) : IO Environment := do
  let bindings ← (names.filter (!·.contains '\x00')).filterMapM fun name => do
    return (← IO.getEnv name).map fun text => (name, text)
  return { bindings }

end CommandLine
end LayeredMap

open LayeredMap CommandLine in
def main (arguments : List String) : IO UInt32 := do
  let file ← environmentFile
  let environment ←
    processEnvironment (Settings.variableNames ++ (file.map EnvironmentFile.mentions).getD [])
  let outcome ← match settings environment file arguments with
    | .ok s => pure (report s (← readText s.manifestPath))
    | .error e => pure (.failure (e.message LayerId.toText) none)
  (← IO.getStdout).putStr outcome.output
  (← IO.getStderr).putStr outcome.complaint
  return outcome.exitCode

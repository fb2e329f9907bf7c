import Automation.Catalog.Bundled
import Automation.Console.Arguments
import Automation.Settings.Basic

/-!
This module contains the program: it reads the command line, the variables and the files that it
names, and does what the command leaves behind.
-/

namespace Automation.Program

open Console

def readContent (path : String) : IO FileContent := do
  try
    return .ofFile (some (← IO.FS.readBinFile path))
  catch _ =>
    return .ofFile none

def readVariables : IO (List (String × String)) := do
  let values ← Settings.variableNames.mapM fun name => do
    return (← IO.getEnv (Settings.variableStart ++ name)).map (name, ·)
  return values.filterMap id

def readCatalog : Option Text → IO (String × Except Catalog.Failure Catalog)
  -- No file has a path that cannot be encoded.
  | none => return (Catalog.bundledFile, .ok Catalog.bundled)
  | some (.whole path) => do
    return (fileName path, Catalog.ofFile (← readContent path).text?)
  | some _ => return ("", .error .unreadable)

def deliverOutcome (o : Outcome) (target : Option String) (level : String) : IO UInt32 := do
  let errors ← IO.getStderr
  for event in Log.shown level o.events do
    errors.putStrLn event.toJson.line
  if let (some path, some text) := (target, o.file) then
    if directory path != "" then
      IO.FS.createDirAll (directory path)
    IO.FS.writeFile path text
  IO.print o.output
  errors.putStr o.errors
  return UInt32.ofNat o.exitCode

def run (settings : Settings) (invocation : Invocation) : IO UInt32 := do
  let level := if invocation.verbose then "INFO" else "WARNING"
  match invocation.request with
  | .validate path => deliverOutcome (validate path (← readContent path)) none level
  | .compose options catalogFile =>
    let (file, catalog) ← readCatalog (catalogFile.map .whole <|> settings.catalogPath)
    deliverOutcome (compose settings.tuning file catalog options) options.target level

end Automation.Program

def main (args : List String) : IO UInt32 := do
  match Automation.Console.Arguments.read? args with
  | none =>
    IO.eprintln Automation.Console.Arguments.usage
    return 2
  | some invocation =>
    match Automation.Settings.ofVariables (← Automation.Program.readVariables) with
    | .ok settings => Automation.Program.run settings invocation
    | .error failure =>
      IO.eprintln failure.message
      return 1

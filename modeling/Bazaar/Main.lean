import Bazaar.Launch

/-! # Command line

Plays the scenario file named by the first argument and prints the report as JSON.
-/

open Bazaar

def readText (path : String) : IO FileText := do
  try return .text (← IO.FS.readFile path)
  catch
    | .noFileOrDirectory .. => return .missing
    | _ => return .unreadable

def main (args : List String) : IO UInt32 := do
  let path := (← IO.getEnv Launch.configurationVariable).getD Launch.defaultConfiguration
  let configuration ← readText path
  let level ← IO.getEnv Launch.levelVariable
  let scenario ← readText (args.headD Launch.defaultScenario)
  match Launch.run configuration level scenario with
  | .ok report =>
    IO.println ((encode report).pretty 0)
    return 0
  | .error e =>
    IO.eprintln s!"Error: {e.message}"
    return 1

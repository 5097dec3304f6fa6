import AnalysisWebhooks.Command.Run
import AnalysisWebhooks.Json.Reader
import AnalysisWebhooks.Schema.Dump

namespace AnalysisWebhooks.CommandLine

def readEnvironment : List String → IO (List (String × String))
  | [] => return []
  | name :: rest => do
    let more ← readEnvironment rest
    match ← IO.getEnv name with
    | some value => return (name, value) :: more
    | none => return more

def load (path : String) : IO Database := do
  let content ← try some <$> IO.FS.readFile path catch
    | .noFileOrDirectory .. => pure none
    | e => throw e
  match content with
  | none => return {}
  | some text =>
    match (Json.ofText? text).bind Database.ofDocument? with
    | some db => return db
    | none => throw (IO.userError (path ++ " holds no database"))

def save (path : String) (db : Database) : IO Unit := do
  IO.FS.createDirAll (Text.parentPath path)
  IO.FS.writeFile path db.document.write

def run (arguments : List String) : IO UInt32 := do
  match Settings.read [] (← readEnvironment Settings.names) with
  | .bad faults => do
    IO.eprintln (Failure.invalid "Settings" faults).message
    return 1
  | .ok settings => do
    let before ← load settings.databasePath
    let (outcome, after) := Command.runArguments settings before arguments
    if before ≠ after then save settings.databasePath after
    match outcome with
    | .ok output => do
      IO.print output
      return 0
    | .error fault => do
      IO.eprintln fault.message
      return 1

end AnalysisWebhooks.CommandLine

def main (arguments : List String) : IO UInt32 :=
  AnalysisWebhooks.CommandLine.run arguments

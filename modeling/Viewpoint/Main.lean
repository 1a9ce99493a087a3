import Viewpoint.Arguments
import Viewpoint.Exchange.Writing
import Viewpoint.Json.Printer
import Viewpoint.Report.Request

/-!
# The program

Reads a document and writes a report on it. Everything that can be decided without touching files is
decided by `Arguments.ofWords` and `Request.run`.
-/

namespace Viewpoint

/-- What is found at a path. -/
def stateOfFile (path : String) : IO FileState := do
  try
    let content ← IO.FS.readFile path
    return .text content
  catch error =>
    match error with
    | .noFileOrDirectory .. => return .missing
    | _ => return .unreadable

/-- The settings file of a project, from its directory. -/
def projectSettingsPath : String := "viewpoint/config.toml"

/-- The settings file of the user, if it is known where it would be. -/
def userSettingsPath? : IO (Option String) := do
  match ← IO.getEnv "XDG_CONFIG_HOME", ← IO.getEnv "HOME" with
  | some directory, _ => return some (directory ++ "/" ++ projectSettingsPath)
  | none, some home => return some (home ++ "/.config/" ++ projectSettingsPath)
  | none, none => return none

/-- What is found in the places where settings may be. -/
def stateOfSettings (named : Option String) : IO SettingsFiles := do
  let named ← named.mapM stateOfFile
  let project ← stateOfFile projectSettingsPath
  let user ←
    match ← userSettingsPath? with
    | some path => stateOfFile path
    | none => pure .missing
  return { named, project, user }

/-- Writes the notices of a run, unless the user wants errors only. -/
def printNotices (logLevel : String) (notices : List Notice) : IO Unit := do
  if logLevel = "off" || logLevel = "error" then return
  for notice in notices do
    IO.eprintln (notice.text)

/-- Writes a report to a file or to the standard output. -/
def printReport (output : Option String) (report : Report) : IO Unit := do
  let text := report.json.sortKeys.pretty
  match output with
  | some path => IO.FS.writeFile path text
  | none => IO.println text

/-- Does what the arguments ask for. The result says how the program ends. -/
def runWith (arguments : Arguments) : IO UInt32 := do
  let files ← stateOfSettings arguments.settings
  let document ← stateOfFile arguments.input
  let outcome := arguments.request.run files document
  printNotices arguments.logLevel outcome.notices
  match outcome.value with
  | .ok report => do
    printReport arguments.output report
    return 0
  | .error failure => do
    IO.eprintln failure.text
    return 1

end Viewpoint

/-- The program. -/
def main (words : List String) : IO UInt32 := do
  match Viewpoint.Arguments.ofWords words with
  | .ok arguments => Viewpoint.runWith arguments
  | .error .helpWanted => do
    IO.println Viewpoint.Arguments.usage
    return 0
  | .error .versionWanted => do
    IO.println Viewpoint.Arguments.version
    return 0
  | .error fault => do
    IO.eprintln (fault.message ++ "\n" ++ Viewpoint.Arguments.usage)
    return 2

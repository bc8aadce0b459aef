import Walkthrough.Command.Run
import Walkthrough.Files.Packaged

/-!
# The program

Looks at the environment and at the files that a run needs, lets `Command.run` decide what is to be
done, and does it. The packaged tables are part of the program, which shows them as files.
-/

namespace Walkthrough.Main

/-- The variables that settings are read from. -/
def settingNames : List String :=
  ["RB_START_AREA", "RB_START_TOWN", "RB_LABYRINTH_AREA", "RB_WORLD_DIR", "RB_LOG_LEVEL",
    "RB_STRICT", "HOME"]

/-- Looks at what is at the end of a path. -/
def look (path : Path) : IO Entry := do
  try
    return .file (← IO.FS.readBinFile path.text).toList
  catch error =>
    match error with
    | .noFileOrDirectory .. => return .absent
    | .inappropriateType _ code _ => return if code = 21 then .folder else .blocked
    | .invalidArgument _ code _ => if code = 36 then return .tooLong else throw error
    | .permissionDenied _ code words => return .denied ⟨code.toNat, words⟩
    | error => throw error

/-- Looks up the variables of the environment. -/
def environment : IO Environment := do
  let values ← settingNames.mapM fun name => return (name, ← IO.getEnv name)
  return fun name => (values.lookup name).join

end Walkthrough.Main

open Walkthrough

def main (arguments : List String) : IO UInt32 := do
  let environment ← Main.environment
  let host := Host.standard
  let entries ← (Command.paths environment host arguments).mapM fun path =>
    return (path, ← Main.look path)
  let found : Disk := fun path => (entries.lookup path).getD .absent
  let disk := found.withPackaged host.packaged
  let report := Command.run environment host disk arguments
  (← IO.getStdout).putStr report.output
  if let some (path, text) := report.written then
    IO.FS.writeFile path.text text
  (← IO.getStderr).putStr report.messages
  match report.ending with
  | .status code => return code.toUInt32
  | .crash cause =>
    (← IO.getStderr).putStrLn cause.message
    return 1

import Walkthrough.Command.Arguments
import Walkthrough.Json.Writer
import Walkthrough.Run.Record
import Walkthrough.Settings

/-!
# The command

The command loads the world and the build, reads the documents, compiles them and writes the routes.
It ends with status 0; with 1 where it is strict and anything was reported; with 2 where it is not
used as it should be or something cannot be read.

* `Command.Report` — all that a run of the command leaves behind.
* `Command.loadAll` — what is read before anything is compiled.
* `Command.run` — the report of a run, a function of the arguments, the environment, the host and
  the disk.
-/

namespace Walkthrough.Command

open Walkthrough.Text

/-- What ends a run without a status. -/
inductive Crash
  | logLevel (error : LevelError)
  | home (error : HomeError)
  /-- The option for the world was given without a folder. -/
  | noFolder
  | excess (cause : Json.Excess)
  | file (error : FileError)
  /-- The routes hold halves of characters. -/
  | halves (found : Utf8.Halves)
  deriving DecidableEq

def Crash.message : Crash → String
  | .logLevel error => error.message
  | .home error => error.message
  | .noFolder => "expected str, bytes or os.PathLike object, not list"
  | .excess cause => cause.message
  | .file error => error.message
  | .halves found => found.message

inductive Ending
  | status (code : Nat)
  | crash (cause : Crash)
  deriving DecidableEq

structure Report where
  /-- What is printed as the result. -/
  output : String
  /-- What is printed as messages. -/
  messages : String
  /-- The file that is written. -/
  written : Option (Path × String)
  ending : Ending

inductive Failure
  /-- There is no folder for the world. -/
  | folder (cause : Crash)
  | load (error : LoadError)
  | document (error : DocumentError)

/-- What is read before anything is compiled. -/
structure Material where
  world : World
  build : Option Build
  documents : List String

/-- The documents of a run; the first that cannot be read ends it. -/
def readDocuments (disk : Disk) : List Path → Except Failure (List String)
  | [] => .ok []
  | path :: paths =>
    match readDocument disk path with
    | .error error => .error (.document error)
    | .ok document => (readDocuments disk paths).map (document :: ·)

/-- The build of a run, if one is asked for. -/
def readBuild (nesting : Nat) (disk : Disk) : Option Path → Except Failure (Option Build)
  | none => .ok none
  | some path =>
    match loadBuild nesting disk path with
    | .error error => .error (.load error)
    | .ok build => .ok (some build)

/-- What is read once the world is there. -/
def loadRest (nesting : Nat) (disk : Disk) (options : Options) (world : World) :
    Except Failure Material := do
  let build ← readBuild nesting disk options.build
  let documents ← readDocuments disk options.documents
  return ⟨world, build, documents⟩

/-- The folder of the world of a run. -/
def worldFolder (settings : Settings) (options : Options) : Except Crash Path :=
  match options.world with
  | .folder path => .ok path
  | .nothing => .error .noFolder
  | .configured => settings.world.mapError .home

/-- What is read before anything is compiled, and the log of it. -/
def loadAll (disk : Disk) (settings : Settings) (options : Options) :
    Except Failure Material × List LogLine :=
  match worldFolder settings options with
  | .error cause => (.error (.folder cause), [])
  | .ok folder =>
    match loadWorld settings.nesting disk folder with
    | .error error => (.error (.load error), [])
    | .ok world => (loadRest settings.nesting disk options world, loadLog folder world)

def textOfLines (lines : List String) : String := String.join (lines.map (· ++ "\n"))

/-- The lines of a log from a level on, each with its end. -/
def logText (threshold : Int) (log : List LogLine) : String :=
  textOfLines ((LogLine.above threshold log).map LogLine.text)

def usage : String :=
  "usage: walkthrough [--help] [--build FILE] [--world FOLDER] [--output FILE] [--strict] " ++
    "DOCUMENT [DOCUMENT ...]\n"

def routesText (routes : List Route) : Letters :=
  Json.write .indented (Route.listToJson routes) ++ "\n"

/-- The report of a run that could read nothing to compile. -/
def failed (messages : String) : Failure → Report
  | .folder cause => ⟨"", messages, none, .crash cause⟩
  | .load (.excess cause) => ⟨"", messages, none, .crash (.excess cause)⟩
  | .document (.file .unnameable) => ⟨"", messages, none, .crash (.file .unnameable)⟩
  | .load error => ⟨"", messages ++ "error: " ++ error.message ++ "\n", none, .status 2⟩
  | .document error => ⟨"", messages ++ "error: " ++ error.message ++ "\n", none, .status 2⟩

/-- The end of a run that wrote its routes. -/
def finished (strict : Bool) (count : Nat) (messages : String) : String × Ending :=
  if strict ∧ count ≠ 0 then
    (messages ++ toString count ++ " diagnostic(s) reported\n", .status 1)
  else (messages, .status 0)

/-- The report of a run that compiled its documents: the routes are printed or written to a file.
The file is there, and empty, before anything is written to it. -/
def delivered (disk : Disk) (options : Options) (messages : String) (routes : List Route)
    (count : Nat) : Report :=
  let (all, ending) := finished options.strict count messages
  match options.output, Utf8.plain (routesText routes) with
  | none, .ok text => ⟨text, all, none, ending⟩
  | none, .error found => ⟨"", messages, none, .crash (.halves found)⟩
  | some path, plain =>
    match disk.writeError? path, plain with
    | some error, _ => ⟨"", messages, none, .crash (.file error)⟩
    | none, .ok text => ⟨"", all, some (path, text), ending⟩
    | none, .error found => ⟨"", messages, some (path, ""), .crash (.halves found)⟩

/-- The routes and the records of a run, which collects its diagnostics. -/
def compileMaterial (settings : Settings) (material : Material) : List Route × Records :=
  (recordRun (.of material.world material.build settings.labyrinth) material.documents).run
    ⟨settings.start none none, [], some []⟩

/-- The report of a run with options. -/
def runOptions (settings : Settings) (disk : Disk) (options : Options) : Report :=
  match settings.logLevel with
  | .error error => ⟨"", "", none, .crash (.logLevel error)⟩
  | .ok level =>
    let (loaded, loadingLog) := loadAll disk settings options
    let messages := logText level loadingLog
    match loaded with
    | .error failure => failed messages failure
    | .ok material =>
      let (routes, records) := compileMaterial settings material
      delivered disk options (messages ++ logText level records.log) routes
        records.diagnostics.length

def run (environment : Environment) (host : Host) (disk : Disk) (arguments : List String) :
    Report :=
  let settings := Settings.ofEnvironment environment host
  match Options.parse host.dialect settings.strict arguments with
  | .error _ => ⟨"", usage, none, .status 2⟩
  | .ok .help => ⟨usage, "", none, .status 0⟩
  | .ok (.run options) => runOptions settings disk options

/-- The paths that a run looks at, so that an outer layer can look at them before it. -/
def paths (environment : Environment) (host : Host) (arguments : List String) : List Path :=
  let settings := Settings.ofEnvironment environment host
  match Options.parse host.dialect settings.strict arguments with
  | .ok (.run options) =>
    let tables :=
      match worldFolder settings options with
      | .ok folder => ["areas.json", "kill_waypoints.json", "quests.json"].map folder.child
      | .error _ => []
    let output := options.output.elim [] fun path => [path, path.parent]
    tables ++ options.build.toList ++ options.documents ++ output
  | _ => []

end Walkthrough.Command

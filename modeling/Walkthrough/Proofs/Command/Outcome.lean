import Walkthrough.Proofs.Command.Loading
import Walkthrough.Proofs.Command.Strict
import Walkthrough.Proofs.Route.Written
import Walkthrough.Proofs.Run.Record

/-!
# The outcome of a command

A run of the command ends in one of a few ways, and its status tells in which. Where something
cannot be read the status is 2, and nothing is printed as a result or written. Where all is read the
routes go to one place: to the file that is asked for, or else they are printed. Then the status
tells whether a strict run has anything to report. How strict a run is, and how much it says, makes
no difference to the result.

A name from the world may hold half of a character, and then there is no text to print or to write:
the run ends without a status, and the file is left empty.

* `Failure.Reported` — the failures that the status tells of;
* `runOptions_of_fails`, `runOptions_of_loads` — what becomes of what was read;
* `CanWrite` — whether the result can go to the file that is asked for;
* `delivered_of_text`, `delivered_of_halves`, `delivered_of_error` — where the result goes;
* `runOptions_congr` — two runs that differ only in how strict they are and how much they say;
* `the_status_tells_the_outcome` — all of this, for every run with options;
* `the_forge_leaves_the_file_empty` — a run that ends without a status.
-/

namespace Walkthrough.Command

open Walkthrough.Text

section Runs

variable {disk : Disk} {settings : Settings} {options : Options} {material : Material}
variable {failure : Failure}

/-! ## What comes of it -/

/-- The failures that are reported by a status, each with what is said about it. The others end the
run by themselves: a world that is not named or whose folder is not known, an excess in a file and a
path that cannot be one. -/
inductive Failure.Reported : Failure → String → Prop
  | load {error : LoadError} (h : ∀ cause, error ≠ .excess cause) :
      Reported (.load error) error.message
  | document {error : DocumentError} (h : error ≠ .file .unnameable) :
      Reported (.document error) error.message

theorem failed_of_reported {text : String} (h : failure.Reported text) (messages : String) :
    failed messages failure = ⟨"", messages ++ "error: " ++ text ++ "\n", none, .status 2⟩ := by
  cases h with
  | load h =>
      rw [failed]
      exact h
  | document h =>
      rw [failed]
      rintro rfl
      exact h rfl

/-- Nothing is printed as the result and nothing is written where something cannot be read. -/
theorem failed_output (messages : String) (failure : Failure) :
    (failed messages failure).output = "" ∧ (failed messages failure).written = none := by
  unfold failed
  split <;> exact ⟨rfl, rfl⟩

variable {level : Int}

theorem runOptions_of_fails (hlevel : settings.logLevel = .ok level)
    (h : Fails disk settings options failure) :
    runOptions settings disk options =
      failed (logText level (loadAll disk settings options).2) failure := by
  have hload := loadAll_of_fails h
  rw [runOptions, hlevel]
  simp only [hload]

/-- The run of the documents, with all that it finds. -/
def Material.compile (settings : Settings) (material : Material) : Compilation :=
  Walkthrough.compile (.of material.world material.build settings.labyrinth)
    (settings.start none none) material.documents

theorem compileMaterial_eq (settings : Settings) (material : Material) :
    ∃ records, compileMaterial settings material = ((material.compile settings).routes, records) ∧
      records.diagnostics = (material.compile settings).diagnostics ∧
      records.log = (material.compile settings).log := by
  refine ⟨_, run_recordRun _ _ _, ?_, ?_⟩
  · exact List.nil_append _
  · exact List.nil_append _

theorem runOptions_of_loads (hlevel : settings.logLevel = .ok level)
    (h : Loads disk settings options material) :
    runOptions settings disk options =
      delivered disk options
        (logText level (loadAll disk settings options).2 ++
          logText level (material.compile settings).log)
        (material.compile settings).routes (material.compile settings).diagnostics.length := by
  obtain ⟨records, hcompile, hdiagnostics, hlog⟩ := compileMaterial_eq settings material
  have hload := loadAll_of_loads h
  rw [runOptions, hlevel]
  simp only [hload, hcompile, hdiagnostics, hlog]

/-- Whether the file that a run writes to, if there is one, can be written. -/
def CanWrite (disk : Disk) (options : Options) : Prop :=
  ∀ path, options.output = some path → disk.writeError? path = none

variable {messages : String} {routes : List Route} {count : Nat}

/-- Routes that are a text go to the file, if there is one, or else they are printed. -/
theorem delivered_of_text (hwrite : CanWrite disk options) {text : String}
    (htext : Utf8.plain (routesText routes) = .ok text) :
    delivered disk options messages routes count =
      ⟨options.output.elim text fun _ => "", (finished options.strict count messages).1,
        options.output.map (·, text), (finished options.strict count messages).2⟩ := by
  rw [delivered, htext]
  cases houtput : options.output with
  | none => rfl
  | some path =>
      simp only [hwrite path houtput]
      rfl

/-- Routes that hold a half of a character end the run, and the file is left empty. -/
theorem delivered_of_halves (hwrite : CanWrite disk options) {found : Utf8.Halves}
    (hhalves : Utf8.plain (routesText routes) = .error found) :
    delivered disk options messages routes count =
      ⟨"", messages, options.output.map (·, ""), .crash (.halves found)⟩ := by
  rw [delivered, hhalves]
  cases houtput : options.output with
  | none => rfl
  | some path =>
      simp only [hwrite path houtput]
      rfl

/-- A file that cannot be written ends the run. -/
theorem delivered_of_error {path : Path} {error : FileError} (houtput : options.output = some path)
    (herror : disk.writeError? path = some error) :
    delivered disk options messages routes count = ⟨"", messages, none, .crash (.file error)⟩ := by
  rw [delivered, houtput]
  simp only [herror]

theorem exists_error_or_canWrite (disk : Disk) (options : Options) :
    (∃ path error, options.output = some path ∧ disk.writeError? path = some error) ∨
      CanWrite disk options := by
  cases houtput : options.output with
  | none => exact .inr fun path hpath => absurd (houtput.symm.trans hpath) nofun
  | some path =>
      cases herror : disk.writeError? path with
      | some error => exact .inl ⟨path, error, rfl, herror⟩
      | none =>
          refine .inr fun other hother => ?_
          obtain rfl := Option.some.inj (houtput.symm.trans hother)
          exact herror

theorem finished_ending (strict : Bool) (diagnostics : List Diagnostic) (messages : String) :
    (finished strict diagnostics.length messages).2 =
      .status (if strict = true ∧ diagnostics ≠ [] then 1 else 0) := by
  simp only [finished, ne_eq, List.length_eq_zero_iff]
  split <;> rfl

theorem finished_ending_ne (strict : Bool) (count : Nat) (messages : String) :
    (finished strict count messages).2 ≠ .status 2 := by
  rw [finished]
  split <;> nofun

/-- A run that has something to deliver does not end with the status of a failure. -/
theorem delivered_ending_ne :
    (delivered disk options messages routes count).ending ≠ .status 2 := by
  rcases exists_error_or_canWrite disk options with ⟨path, error, houtput, herror⟩ | hwrite
  · rw [delivered_of_error houtput herror]
    nofun
  cases hplain : Utf8.plain (routesText routes) with
  | ok text =>
      rw [delivered_of_text hwrite hplain]
      exact finished_ending_ne _ _ _
  | error found =>
      rw [delivered_of_halves hwrite hplain]
      nofun

/-! ## Two runs -/

section Congr

variable {settings' : Settings} {options' : Options} {level' : Int}

/-- What a run prints and writes depends neither on how strict it is nor on what it says. -/
theorem delivered_congr (houtput : options'.output = options.output) (messages' : String) :
    (delivered disk options' messages' routes count).output =
        (delivered disk options messages routes count).output ∧
      (delivered disk options' messages' routes count).written =
        (delivered disk options messages routes count).written := by
  rcases exists_error_or_canWrite disk options with ⟨path, error, hpath, herror⟩ | hwrite
  · rw [delivered_of_error hpath herror, delivered_of_error (houtput.trans hpath) herror]
    exact ⟨rfl, rfl⟩
  have hwrite' : CanWrite disk options' := by
    rw [CanWrite, houtput]
    exact hwrite
  cases hplain : Utf8.plain (routesText routes) with
  | ok text =>
      rw [delivered_of_text hwrite hplain, delivered_of_text hwrite' hplain, houtput]
      exact ⟨rfl, rfl⟩
  | error found =>
      rw [delivered_of_halves hwrite hplain, delivered_of_halves hwrite' hplain, houtput]
      exact ⟨rfl, rfl⟩

theorem failed_ending (messages messages' : String) (failure : Failure) :
    (failed messages' failure).ending = (failed messages failure).ending := by
  unfold failed
  split <;> rfl

theorem loadAll_lax (disk : Disk) (settings : Settings) (options : Options) :
    loadAll disk settings.lax options.lax = loadAll disk settings options := rfl

theorem compileMaterial_lax (settings : Settings) (material : Material) :
    compileMaterial settings.lax material = compileMaterial settings material := rfl

/-- Two runs that differ only in how strict they are and in how much they say print the same and
write the same, and if one of them is told of a failure by its status then so is the other. -/
theorem runOptions_congr (hsettings : settings'.lax = settings.lax)
    (hoptions : options'.lax = options.lax) (hlevel : settings.logLevel = .ok level)
    (hlevel' : settings'.logLevel = .ok level') :
    (runOptions settings' disk options').output = (runOptions settings disk options).output ∧
      (runOptions settings' disk options').written = (runOptions settings disk options).written ∧
      ((runOptions settings' disk options').ending = .status 2 ↔
        (runOptions settings disk options).ending = .status 2) := by
  have hload : loadAll disk settings' options' = loadAll disk settings options := by
    rw [← loadAll_lax, hsettings, hoptions, loadAll_lax]
  have houtput : options'.output = options.output := by injection hoptions
  rw [runOptions, runOptions, hlevel, hlevel', hload]
  obtain ⟨loaded, log⟩ := loadAll disk settings options
  cases loaded with
  | error failure =>
      obtain ⟨hnothing, hnone⟩ := failed_output (logText level log) failure
      obtain ⟨hnothing', hnone'⟩ := failed_output (logText level' log) failure
      refine ⟨hnothing'.trans hnothing.symm, hnone'.trans hnone.symm, ?_⟩
      exact Eq.congr_left (failed_ending _ _ failure)
  | ok material =>
      have hcompile : compileMaterial settings' material = compileMaterial settings material := by
        rw [← compileMaterial_lax, hsettings, compileMaterial_lax]
      simp only [hcompile]
      obtain ⟨hprinted, hwritten⟩ := delivered_congr houtput _
      exact ⟨hprinted, hwritten, iff_of_false delivered_ending_ne delivered_ending_ne⟩

end Congr

/-! ## Runs -/

/-- Whether arguments ask for a run with options, where the log level in the environment is one. -/
structure Asks (environment : Environment) (host : Host) (arguments : List String)
    (options : Options) : Prop where
  parse : Options.parse host.dialect (Settings.ofEnvironment environment host).strict arguments =
    .ok (.run options)
  level : ∃ level, (Settings.ofEnvironment environment host).logLevel = .ok level

section Asks

variable {environment environment' : Environment} {host : Host} {arguments : List String}

theorem Asks.run_eq (h : Asks environment host arguments options) (disk : Disk) :
    run environment host disk arguments =
      runOptions (Settings.ofEnvironment environment host) disk options := by
  rw [run, h.parse]

/-- Arguments that ask for a run do so in every environment with a log level, also behind the option
to be strict. -/
theorem Asks.exists_asks (h : Asks environment host arguments options)
    (hlevel : ∃ level, (Settings.ofEnvironment environment' host).logLevel = .ok level) :
    ∀ arguments' ∈ [arguments, "--strict" :: arguments],
      ∃ options', Asks environment' host arguments' options' ∧ options'.lax = options.lax := by
  intro arguments' harguments
  rcases List.mem_pair.mp harguments with rfl | rfl
  · obtain ⟨options', hparse, hlax⟩ := Options.exists_parse h.parse _
    exact ⟨options', ⟨hparse, hlevel⟩, hlax⟩
  · obtain ⟨options', hparse, hlax⟩ := Options.exists_parse h.parse true
    exact ⟨options', ⟨(Options.parse_strict _ _ _).trans hparse, hlevel⟩, hlax⟩

/-- How a run ends. Either all can be read or there is a first thing that cannot, and that is told
with status 2. Where all can be read and the file that is asked for can be written, the result goes
to one place and the status is 1 or 0, unless a name holds half of a character. The same arguments
ask for a run in every environment with a log level, and runs that differ only in how strict they
are and how much they say have the same result, and fail together. -/
theorem the_status_tells_the_outcome (h : Asks environment host arguments options) (disk : Disk) :
    let settings := Settings.ofEnvironment environment host
    let report := run environment host disk arguments
    ((∃ material, Loads disk settings options material) ∨
      ∃ failure, Fails disk settings options failure) ∧
    (∀ failure text, Fails disk settings options failure → failure.Reported text →
      ∃ log, report = ⟨"", log ++ "error: " ++ text ++ "\n", none, .status 2⟩) ∧
    (∀ material, Loads disk settings options material → CanWrite disk options →
      let compiled := material.compile settings
      (Route.Named compiled.routes →
        ∃ text, Utf8.plain (routesText compiled.routes) = .ok text ∧
          report.output = options.output.elim text (fun _ => "") ∧
          report.written = options.output.map (·, text) ∧
          report.ending =
            .status (if options.strict = true ∧ compiled.diagnostics ≠ [] then 1 else 0)) ∧
      (¬Route.Named compiled.routes →
        ∃ found, report.output = "" ∧ report.written = options.output.map (·, "") ∧
          report.ending = .crash (.halves found))) ∧
    (∀ environment', (∃ level, (Settings.ofEnvironment environment' host).logLevel = .ok level) →
      ∀ arguments' ∈ [arguments, "--strict" :: arguments],
        ∃ options', Asks environment' host arguments' options' ∧ options'.lax = options.lax) ∧
    ∀ environment' arguments' options', Asks environment' host arguments' options' →
      environment.Agree environment' → options'.lax = options.lax →
      let report' := run environment' host disk arguments'
      report'.output = report.output ∧ report'.written = report.written ∧
        (report'.ending = .status 2 ↔ report.ending = .status 2) := by
  intro settings report
  obtain ⟨level, hlevel⟩ := h.level
  have hrun : report = runOptions settings disk options := h.run_eq disk
  refine ⟨exists_loads_or_fails disk settings options, ?_, ?_, fun _ => h.exists_asks, ?_⟩
  · intro failure text hfails hreported
    rw [hrun, runOptions_of_fails hlevel hfails, failed_of_reported hreported]
    exact ⟨_, rfl⟩
  · intro material hloads hwrite compiled
    have hcounted : Route.Counted compiled.routes := Route.counted_compile _ _ _
    rw [hrun, runOptions_of_loads hlevel hloads]
    constructor
    · intro hnamed
      have hplain := plain_routesText hnamed hcounted
      rw [delivered_of_text hwrite hplain]
      exact ⟨_, hplain, rfl, rfl, finished_ending _ _ _⟩
    · intro hnamed
      obtain ⟨found, hhalves⟩ := exists_halves hnamed hcounted
      rw [delivered_of_halves hwrite hhalves]
      exact ⟨found, rfl, rfl, rfl⟩
  · intro environment' arguments' options' h' hagree hoptions report'
    obtain ⟨level', hlevel'⟩ := h'.level
    have hrun' : report' = runOptions (Settings.ofEnvironment environment' host) disk options' :=
      h'.run_eq disk
    rw [hrun, hrun']
    exact runOptions_congr (Settings.lax_ofEnvironment hagree host) hoptions hlevel hlevel'

end Asks

end Runs

namespace Forge

def areasText : String :=
  "\x7b\"forge\": \x7b\"id\": \"forge\", \"name\": \"Forge\", \"act\": 1, " ++
    "\"crafting_recipes\": [\"\\ud800\"]\x7d\x7d"

/-- A forge whose recipe is half of a character, a document that asks for the recipes there and one
that asks for something else. -/
def disk : Disk := fun path =>
  if path = ⟨0, ["w", "areas.json"]⟩ then .file (Utf8.encode areasText)
  else if path = ⟨0, ["craft"]⟩ then .file (Utf8.encode "\x7bcrafting|forge\x7d")
  else if path = ⟨0, ["rest"]⟩ then .file (Utf8.encode "\x7brest\x7d")
  else if path.names = [] then .folder
  else .absent

def forge : Area where
  id := "forge"
  act := ⟨1, false⟩
  name := "Forge"
  neighbours := []
  isTown := false
  hasWaypoint := false
  recipes := [[.half 0]]

def world : World := ⟨[("forge", forge)], [], []⟩

def areasJson : Json := .record [("forge", .record [("id", .text "forge"), ("name", .text "Forge"),
  ("act", .int 1), ("crafting_recipes", .array [.string [.half 0]])])]

abbrev settings : Settings := .ofEnvironment (fun _ => none) .standard

theorem read_areasText :
    Json.read settings.nesting (unifyNewlines areasText.toList) = .ok areasJson := by
  with_unfolding_all rfl

theorem loadWorld_disk : loadWorld settings.nesting disk ⟨0, ["w"]⟩ = .ok world := by
  have hareas : disk.Holds settings.nesting ⟨0, ["w", "areas.json"]⟩ areasJson :=
    ⟨_, _, rfl, Utf8.decode_encode areasText, read_areasText⟩
  have hworld : World.ofTables areasJson (.object []) (.object []) = .ok world := by
    with_unfolding_all rfl
  exact loadWorld_of_ofTables hareas (.inl ⟨rfl, rfl⟩) (.inl ⟨rfl, rfl⟩) hworld

/-- The options of a run in the forge. -/
def options (document : String) (output : Option Path) (strict : Bool) : Options :=
  ⟨[⟨0, [document]⟩], none, .folder ⟨0, ["w"]⟩, output, strict⟩

theorem loads_craft : Loads disk settings (options "craft" (some ⟨0, ["o"]⟩) false)
    ⟨world, none, ["\x7bcrafting|forge\x7d"]⟩ where
  world := ⟨_, rfl, loadWorld_disk⟩
  build := rfl
  documents := by
    show [readDocument disk ⟨0, ["craft"]⟩] = _
    rw [readDocument_of_file rfl (by decide)]
    rfl

theorem loads_rest : Loads disk settings (options "rest" none true)
    ⟨world, none, ["\x7brest\x7d"]⟩ where
  world := ⟨_, rfl, loadWorld_disk⟩
  build := rfl
  documents := by
    show [readDocument disk ⟨0, ["rest"]⟩] = _
    rw [readDocument_of_file rfl (by decide)]
    rfl

theorem routes_craft :
    (Material.compile settings ⟨world, none, ["\x7bcrafting|forge\x7d"]⟩).routes =
      [[.line [.action (.crafting [[.half 0]])]]] := by
  with_unfolding_all rfl

theorem routes_rest :
    (Material.compile settings ⟨world, none, ["\x7brest\x7d"]⟩).routes = [[]] := by
  with_unfolding_all rfl

theorem diagnostics_rest :
    (Material.compile settings ⟨world, none, ["\x7brest\x7d"]⟩).diagnostics ≠ [] := by
  have hfirst : (Material.compile settings ⟨world, none, ["\x7brest\x7d"]⟩).refusals =
      [(["rest"], .badFormat)] := by
    with_unfolding_all rfl
  rw [Compilation.diagnostics, hfirst]
  exact List.cons_ne_nil _ _

theorem asks_craft : Asks (fun _ => none) .standard ["--world", "w", "craft", "--output", "o"]
    (options "craft" (some ⟨0, ["o"]⟩) false) where
  parse := by with_unfolding_all rfl
  level := ⟨30, rfl⟩

theorem asks_rest : Asks (fun _ => none) .standard ["--world", "w", "rest", "--strict"]
    (options "rest" none true) where
  parse := by with_unfolding_all rfl
  level := ⟨30, rfl⟩

theorem canWrite_craft : CanWrite disk (options "craft" (some ⟨0, ["o"]⟩) false) := by
  rintro path ⟨⟩
  rfl

end Forge

/-- In the forge a strict run prints an empty route and ends with status 1. -/
theorem the_rest_is_reported :
    (run (fun _ => none) .standard Forge.disk ["--world", "w", "rest", "--strict"]).output =
        "[\n  []\n]\n" ∧
      (run (fun _ => none) .standard Forge.disk ["--world", "w", "rest", "--strict"]).ending =
        .status 1 := by
  obtain ⟨-, -, hdelivers, -⟩ := the_status_tells_the_outcome Forge.asks_rest Forge.disk
  have hnamed : Route.Named
      (Material.compile Forge.settings ⟨Forge.world, none, ["\x7brest\x7d"]⟩).routes := by
    rw [Forge.routes_rest]
    intro route hroute step hstep
    rw [List.mem_singleton.mp hroute] at hstep
    cases hstep
  obtain ⟨text, hplain, hprinted, -, hends⟩ := (hdelivers _ Forge.loads_rest nofun).1 hnamed
  refine ⟨?_, hends.trans (congrArg Ending.status (if_pos ⟨rfl, Forge.diagnostics_rest⟩))⟩
  have htext : Utf8.plain (routesText [[]]) = .ok "[\n  []\n]\n" := by with_unfolding_all rfl
  rw [Forge.routes_rest, htext] at hplain
  exact hprinted.trans (Except.ok.inj hplain).symm

/-- In the forge all can be read and the file can be written, and yet it is left empty and the run
ends without a status, since the recipe is half of a character. -/
theorem the_forge_leaves_the_file_empty :
    Asks (fun _ => none) .standard ["--world", "w", "craft", "--output", "o"]
        (Forge.options "craft" (some ⟨0, ["o"]⟩) false) ∧
      Loads Forge.disk Forge.settings (Forge.options "craft" (some ⟨0, ["o"]⟩) false)
        ⟨Forge.world, none, ["\x7bcrafting|forge\x7d"]⟩ ∧
      CanWrite Forge.disk (Forge.options "craft" (some ⟨0, ["o"]⟩) false) ∧
      (run (fun _ => none) .standard Forge.disk
        ["--world", "w", "craft", "--output", "o"]).written = some (⟨0, ["o"]⟩, "") ∧
      ∀ code, (run (fun _ => none) .standard Forge.disk
        ["--world", "w", "craft", "--output", "o"]).ending ≠ .status code := by
  refine ⟨Forge.asks_craft, Forge.loads_craft, Forge.canWrite_craft, ?_⟩
  have hplain : Utf8.plain (routesText [[.line [.action (.crafting [[.half 0]])]]]) =
      .error ⟨0, 84, 85⟩ := by
    with_unfolding_all rfl
  have hlevel : Forge.settings.logLevel = .ok 30 := rfl
  rw [Forge.asks_craft.run_eq, runOptions_of_loads hlevel Forge.loads_craft]
  rw [Forge.routes_craft, delivered_of_halves Forge.canWrite_craft hplain]
  exact ⟨rfl, nofun⟩

end Walkthrough.Command

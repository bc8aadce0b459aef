import Walkthrough.Proofs.Command.Outcome
import Walkthrough.Proofs.Settings.Level
import Walkthrough.Proofs.Text.Trim

/-!
# Runs and their log level

The log level is set in the environment, and nearly all that it may be set to is a level. There is one
exception: digits that build no number. Where the level is set to such digits a run ends before it
reads anything.

* `LevelSetting` — what a setting stands for, or the lack of one;
* `Settings.logLevel_eq_iff` — the log level is what its setting stands for;
* `Command.runOptions_ending_eq_iff` — a run crashes over its log level just if that is none;
* `only_digits_spoil_the_log_level` — all of this, for every environment and every run;
* `a_raised_two_stops_the_run` — a run that ends like this.
-/

namespace Walkthrough

open Walkthrough.Text

/-! ## What a setting stands for -/

/-- `LevelSetting upper value? result`: what becomes of a log level that is set to a value, or is not
set. -/
inductive LevelSetting (upper : Char → List Char) : Option String → Except LevelError Int → Prop
  | unset : LevelSetting upper none (.ok 30)
  | blank {value : String} (hblank : ∀ c ∈ value.toList, isBlank c = true) :
      LevelSetting upper (some value) (.ok 30)
  | text {value : String} {text : List Char} {result : Except LevelError Int}
      (htrims : Trims isBlank value.toList text) (hne : text ≠ [])
      (hresult : LevelText upper text result) : LevelSetting upper (some value) result

section Setting

variable {upper : Char → List Char} {value? : Option String} {value : String}
variable {result : Except LevelError Int} {environment : Environment}

theorem levelSetting_some_iff :
    LevelSetting upper (some value) result ↔
      if trimBy isBlank value.toList = [] then result = .ok 30
      else LevelText upper (trimBy isBlank value.toList) result := by
  constructor
  · intro h
    cases h with
    | blank hblank => rw [if_pos (trimBy_eq_nil_iff.mpr hblank)]
    | text htrims hne hresult => rwa [htrims.trimBy_eq, if_neg hne]
  · intro h
    split at h
    · rename_i hnil
      exact h ▸ .blank (trimBy_eq_nil_iff.mp hnil)
    · rename_i hne
      exact .text (trims_trimBy isBlank _) hne h

/-- The log level is what its setting stands for. -/
theorem Settings.logLevel_eq_iff (hupper : UpperCases upper) (environment : Environment)
    (host : Host) :
    (ofEnvironment environment host).logLevel = result ↔
      LevelSetting upper (environment "RB_LOG_LEVEL") result := by
  show ((environment.setting? "RB_LOG_LEVEL").map readLevel).getD (.ok 30) = result ↔ _
  rw [Environment.setting?]
  cases environment "RB_LOG_LEVEL" with
  | none =>
      constructor
      · rintro rfl
        exact .unset
      · rintro ⟨⟩
        rfl
  | some value =>
      rw [levelSetting_some_iff, Option.map_some, trim]
      split
      · rename_i hnil
        rw [hnil]
        exact eq_comm
      · rename_i hne
        have hnotEmpty : (String.ofList (trimBy isBlank value.toList)).isEmpty = false := by
          rw [Bool.eq_false_iff, ne_eq, String.isEmpty_iff, String.ofList_eq_empty_iff]
          exact hne
        rw [Option.filter_some, hnotEmpty, ← readLevel_eq_iff hupper hne]
        rfl

/-- A setting stands for an error just if it is made, between blanks, of digits that build no number. -/
theorem exists_setting_error_iff :
    (∃ error, LevelSetting upper value? (.error error)) ↔
      ∃ value text, value? = some value ∧ Trims isBlank value.toList text ∧ BuildsNoNumber text := by
  constructor
  · rintro ⟨error, h⟩
    cases h with
    | text htrims hne hresult => exact ⟨_, _, rfl, htrims, exists_error_iff.mp ⟨error, hresult⟩⟩
  · rintro ⟨value, text, rfl, htrims, hfault⟩
    obtain ⟨error, herror⟩ := (@exists_error_iff upper text).mpr hfault
    refine ⟨error, .text htrims ?_ herror⟩
    rintro rfl
    rcases hfault.2 with ⟨c, hc, -⟩ | hlong
    · cases hc
    · cases hlong

end Setting

/-! ## Runs -/

namespace Command

section Runs

variable {disk : Disk} {settings : Settings} {options : Options} {failure : Failure}
variable {error : LevelError} {messages : String} {routes : List Route} {count : Nat}

theorem worldFolder_ne : worldFolder settings options ≠ .error (.logLevel error) := by
  unfold worldFolder
  split
  · nofun
  · nofun
  · cases settings.world <;> nofun

theorem eq_folder_of_failed (h : (failed messages failure).ending = .crash (.logLevel error)) :
    failure = .folder (.logLevel error) := by
  unfold failed at h
  split at h <;> cases h
  rfl

theorem delivered_ending_ne_crash :
    (delivered disk options messages routes count).ending ≠ .crash (.logLevel error) := by
  intro h
  rcases exists_error_or_canWrite disk options with ⟨path, fault, houtput, hfault⟩ | hwrite
  · rw [delivered_of_error houtput hfault] at h
    cases h
  cases hplain : Utf8.plain (routesText routes) with
  | error found =>
      rw [delivered_of_halves hwrite hplain] at h
      cases h
  | ok text =>
      rw [delivered_of_text hwrite hplain, finished] at h
      split at h <;> cases h

/-- A run without a log level does nothing. -/
theorem runOptions_of_error (h : settings.logLevel = .error error) :
    runOptions settings disk options = ⟨"", "", none, .crash (.logLevel error)⟩ := by
  rw [runOptions, h]

/-- A run crashes over the log level just if there is none. -/
theorem runOptions_ending_eq_iff :
    (runOptions settings disk options).ending = .crash (.logLevel error) ↔
      settings.logLevel = .error error := by
  cases hlevel : settings.logLevel with
  | error fault =>
      rw [runOptions_of_error hlevel]
      simp
  | ok level =>
      refine iff_of_false ?_ nofun
      rcases exists_loads_or_fails disk settings options with ⟨material, h⟩ | ⟨failure, h⟩
      · rw [runOptions_of_loads hlevel h]
        exact delivered_ending_ne_crash
      · rw [runOptions_of_fails hlevel h]
        intro hending
        obtain rfl := eq_folder_of_failed hending
        cases h with
        | folder h => exact worldFolder_ne h

variable {environment : Environment} {host : Host} {arguments : List String}

theorem run_of_parse
    (h : Options.parse host.dialect (Settings.ofEnvironment environment host).strict arguments =
      .ok (.run options)) :
    run environment host disk arguments =
      runOptions (Settings.ofEnvironment environment host) disk options := by
  rw [run, h]

/-- Arguments that ask for no run end with a status, whatever the log level is. -/
theorem exists_parse_of_crash {cause : Crash}
    (h : (run environment host disk arguments).ending = .crash cause) :
    ∃ options, Options.parse host.dialect (Settings.ofEnvironment environment host).strict
      arguments = .ok (.run options) := by
  rw [run] at h
  split at h
  · cases h
  · cases h
  · rename_i options hparse
    exact ⟨options, hparse⟩

end Runs

end Command

/-- The log level is what its setting stands for, and it fails to be a level just where the setting is
made of digits that build no number. A run ends over it just then, if it is asked for, and leaves
nothing behind. -/
theorem only_digits_spoil_the_log_level {upper : Char → List Char} (hupper : UpperCases upper)
    (environment : Environment) (host : Host) :
    let settings := Settings.ofEnvironment environment host
    (∀ result, settings.logLevel = result ↔
      LevelSetting upper (environment "RB_LOG_LEVEL") result) ∧
    ((∃ error, settings.logLevel = .error error) ↔
      ∃ value text, environment "RB_LOG_LEVEL" = some value ∧ Trims isBlank value.toList text ∧
        BuildsNoNumber text) ∧
    ∀ disk arguments error,
      let report := Command.run environment host disk arguments
      (report.ending = .crash (.logLevel error) ↔
        settings.logLevel = .error error ∧
          ∃ options, Options.parse host.dialect settings.strict arguments = .ok (.run options)) ∧
      (report.ending = .crash (.logLevel error) →
        report = ⟨"", "", none, .crash (.logLevel error)⟩) := by
  intro settings
  refine ⟨fun result => Settings.logLevel_eq_iff hupper environment host, ?_, ?_⟩
  · rw [← @exists_setting_error_iff upper]
    exact exists_congr fun error => Settings.logLevel_eq_iff hupper environment host
  intro disk arguments error report
  have hcrash : report.ending = .crash (.logLevel error) →
      settings.logLevel = .error error ∧
        ∃ options, Options.parse host.dialect settings.strict arguments = .ok (.run options) := by
    intro h
    obtain ⟨options, hparse⟩ := Command.exists_parse_of_crash h
    have hrun : report = _ := Command.run_of_parse hparse
    rw [hrun] at h
    exact ⟨Command.runOptions_ending_eq_iff.mp h, options, hparse⟩
  have hreport : settings.logLevel = .error error →
      (∃ options, Options.parse host.dialect settings.strict arguments = .ok (.run options)) →
        report = ⟨"", "", none, .crash (.logLevel error)⟩ := by
    rintro hlevel ⟨options, hparse⟩
    exact (Command.run_of_parse hparse).trans (Command.runOptions_of_error hlevel)
  refine ⟨⟨hcrash, ?_⟩, ?_⟩
  · rintro ⟨hlevel, hasked⟩
    rw [hreport hlevel hasked]
  · intro h
    obtain ⟨hlevel, hasked⟩ := hcrash h
    exact hreport hlevel hasked

/-- An environment in which nothing but the log level is set. -/
def Environment.ofLevel (value : String) : Environment := fun name =>
  if name = "RB_LOG_LEVEL" then some value else none

/-- A name may be written with a letter that is not of ASCII, and a number with the digits of another
script. -/
theorem dotless_names_and_arabic_numbers_are_levels :
    UpperCases (fun c => [upperLetter c]) ∧
      (Settings.ofEnvironment (.ofLevel " ınfo\t") .standard).logLevel = .ok 20 ∧
      (Settings.ofEnvironment (.ofLevel "٤٢") .standard).logLevel = .ok 42 := by
  have hupper := upperCases_upperLetter
  obtain ⟨hname, -⟩ := only_digits_spoil_the_log_level hupper (.ofLevel " ınfo\t") .standard
  obtain ⟨hnumber, -⟩ := only_digits_spoil_the_log_level hupper (.ofLevel "٤٢") .standard
  refine ⟨hupper, (hname _).mpr ?_, (hnumber _).mpr ?_⟩
  · have hlevel : ("INFO", 20) ∈ levelNames := by decide
    have htrims : Trims isBlank " ınfo\t".toList "ınfo".toList := trims_iff.mpr (by decide)
    exact .text htrims (by decide) (.name hlevel (by decide))
  · have hdigits : "٤٢".toList.map decimalDigit? = [4, 2].map some := by decide
    have htrims : Trims isBlank "٤٢".toList "٤٢".toList := trims_iff.mpr (by decide)
    exact .text htrims (by decide) (.number (by decide) hdigits (by decide))

/-- The sign of a raised two is a digit but no decimal one, and a run where it is set as the log level
ends at once. -/
theorem a_raised_two_stops_the_run :
    (Settings.ofEnvironment (.ofLevel "²") .standard).logLevel = .error (.notDecimal "²") ∧
      (LevelError.notDecimal "²").message = "invalid literal for int() with base 10: '²'" ∧
      ∀ disk, Command.run (.ofLevel "²") .standard disk ["route.txt"] =
        ⟨"", "", none, .crash (.logLevel (.notDecimal "²"))⟩ := by
  have hlevel : (Settings.ofEnvironment (.ofLevel "²") .standard).logLevel =
      .error (.notDecimal "²") := rfl
  have hparse : Options.parse Host.standard.dialect
        (Settings.ofEnvironment (.ofLevel "²") .standard).strict ["route.txt"] =
      .ok (.run ⟨[⟨0, ["route.txt"]⟩], none, .configured, none, false⟩) := by
    with_unfolding_all rfl
  refine ⟨hlevel, by decide +kernel, fun disk => ?_⟩
  rw [Command.run_of_parse hparse, Command.runOptions_of_error hlevel]

end Walkthrough

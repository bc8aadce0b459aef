import Walkthrough.Files.Shelf
import Walkthrough.Host
import Walkthrough.Number.Literal
import Walkthrough.Travel.Progress

/-!
# Settings

What can be set without an option is set in the environment, and the host decides the rest. A
setting that is blank counts as not set. The log level is a name or a number; whatever else it is
set to counts as the level of warnings, but for texts of digits that build no number, which are an
error.

* `Settings` — all that is set.
* `Settings.ofEnvironment` — the settings in an environment, on a host.
* `readLevel` — the number of a log level.
-/

namespace Walkthrough

open Walkthrough.Text

abbrev Environment := String → Option String

/-- Why a log level is no number, though it is made of digits. -/
inductive LevelError
  | notDecimal (text : String)
  | overlong (digits : Nat)
  deriving DecidableEq

/-- An error in words; a long text is cut. -/
def LevelError.message : LevelError → String
  | .notDecimal text =>
    "invalid literal for int() with base 10: " ++ String.ofList ((quote text).toList.take 200)
  | .overlong digits => Number.overlongMessage digits

structure Settings where
  startArea : String
  startTown : String
  labyrinth : String
  /-- The folder of the world, unless it starts from a home folder that is not known. -/
  world : Except HomeError Path
  logLevel : Except LevelError Int
  strict : Bool
  /-- How many brackets of JSON may be open at once. -/
  nesting : Nat

/-- The upper case of a letter, for the letters whose upper case is a letter of ASCII. -/
def upperLetter (c : Char) : Char :=
  if c = 'ı' then 'I' else if c = 'ſ' then 'S' else c.toUpper

def levelNames : List (String × Int) :=
  [("CRITICAL", 50), ("FATAL", 50), ("ERROR", 40), ("WARN", 30), ("WARNING", 30), ("INFO", 20),
    ("DEBUG", 10), ("NOTSET", 0)]

/-- The level that takes the place of what is none. -/
def defaultLevel : Int := 30

/-- The number that a text of digits stands for. -/
def readDigits (text : String) : Except LevelError Int :=
  let (digits, rest) := Number.takeDigits decimalDigit? text.toList
  -- The digits in front are counted whatever comes after them.
  if Number.digitLimit < digits.length then .error (.overlong digits.length)
  else if rest ≠ [] then .error (.notDecimal text)
  else .ok (Number.ofDigits digits)

/-- The number of a log level, by name or by number. -/
def readLevel (text : String) : Except LevelError Int :=
  if text ≠ "" ∧ text.toList.all isDigitSign then readDigits text
  else .ok ((levelNames.lookup (String.ofList (text.toList.map upperLetter))).getD defaultLevel)

/-- The words that switch a setting on, in any letter case. -/
def isOn (text : String) : Bool :=
  ["1", "true", "yes", "on"].contains (String.ofList (text.toList.map Char.toLower))

namespace Environment

/-- The value of a variable without the blanks around it, if there is more than blanks. -/
def setting? (environment : Environment) (name : String) : Option String :=
  ((environment name).map trim).filter fun text => !text.isEmpty

end Environment

namespace Settings

/-- The folder of the world: the one that is set, or else that of the tables of the program. -/
def worldFolder (environment : Environment) (host : Host) : Except HomeError Path :=
  match environment.setting? "RB_WORLD_DIR" with
  | none => .ok host.packaged
  | some text => (Path.parse text).expandHome (host.homes.withOwn (environment "HOME"))

/-- The settings in an environment. -/
def ofEnvironment (environment : Environment) (host : Host) : Settings where
  startArea := (environment.setting? "RB_START_AREA").getD "1_1_1"
  startTown := (environment.setting? "RB_START_TOWN").getD "1_1_town"
  labyrinth := (environment.setting? "RB_LABYRINTH_AREA").getD "Labyrinth_Airlock"
  world := worldFolder environment host
  logLevel := ((environment.setting? "RB_LOG_LEVEL").map readLevel).getD (.ok defaultLevel)
  strict := ((environment.setting? "RB_STRICT").map isOn).getD false
  nesting := host.nesting

/-- The progress at the start of a run. An area or a town that is not given, or is the empty id, is
taken from the settings. -/
def start (settings : Settings) (area? town? : Option String) : Progress :=
  .start ((area?.filter fun id => !id.isEmpty).getD settings.startArea)
    ((town?.filter fun id => !id.isEmpty).getD settings.startTown)

end Settings

end Walkthrough

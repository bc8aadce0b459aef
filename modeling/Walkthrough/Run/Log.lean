/-!
# The log

What happens while tables are loaded and documents are compiled is logged. A reader of the log says
from which level on they want to be told.

* `LogLine` — a line of the log, with its level and the part of the program it comes from.
* `LogLine.text` — the line in words.
-/

namespace Walkthrough

/-- How much a line of the log matters. -/
inductive LogLevel
  | debug
  | info
  | warning
  deriving DecidableEq

namespace LogLevel

/-- The number of a level: the higher, the more it matters. -/
def number : LogLevel → Int
  | debug => 10
  | info => 20
  | warning => 30

def name : LogLevel → String
  | debug => "DEBUG"
  | info => "INFO"
  | warning => "WARNING"

end LogLevel

/-- The parts of the program that keep the log. -/
inductive LogSource
  /-- Compiling documents. -/
  | compiler
  /-- Loading tables. -/
  | loader
  deriving DecidableEq

/-- The name of a part of the program. -/
def LogSource.name : LogSource → String
  | .compiler => "routebook.core.assembler"
  | .loader => "routebook.bootstrap"

structure LogLine where
  level : LogLevel
  source : LogSource
  message : String
  deriving DecidableEq

namespace LogLine

/-- A line of the log in words. -/
def text (line : LogLine) : String :=
  line.level.name ++ " " ++ line.source.name ++ ": " ++ line.message

/-- The lines of a log from a level on. -/
def above (threshold : Int) (log : List LogLine) : List LogLine :=
  log.filter fun line => threshold ≤ line.level.number

end LogLine

end Walkthrough

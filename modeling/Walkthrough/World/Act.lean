import Walkthrough.Json.Basic
import Walkthrough.Number.Shortest

/-!
# Acts

The acts of a game are numbered from one. A table may write the number of an act as a whole number
or as a float that is equal to one; both name the same act, and what is shown of it is what was
written.
-/

namespace Walkthrough

structure Act where
  value : Int
  /-- Whether it is written as a float. -/
  isFloat : Bool
  deriving DecidableEq

namespace Act

/-- Whether two numbers name the same act. -/
def same (a b : Act) : Bool := a.value == b.value

/-- The number as a table writes it; what is no whole number reads as zero. -/
def ofJson : Json → Act
  | .int value => ⟨value, false⟩
  | .float x => ⟨x.toInt?.getD 0, true⟩
  | _ => ⟨0, false⟩

def toJson (act : Act) : Json :=
  if act.isFloat then .float (.ofInt act.value) else .int act.value

/-- The number as it is shown. For this a whole number must have no more digits than
`Number.digitLimit`, as in every table that was read. -/
def text (act : Act) : String :=
  if act.isFloat then (Binary64.ofInt act.value).text else toString act.value

end Act

end Walkthrough

import Walkthrough.Number.Binary64
import Walkthrough.Table
import Walkthrough.Text.Letter

/-!
# JSON values

Tables, builds and compiled routes are JSON. The members of an object are kept in order, and whole
numbers apart from numbers with a fraction or an exponent: the two are written differently, also
where they are equal. Texts and keys are rows of letters, since escapes may leave a half of a
character alone.

* `Json` — the values.
* `Json.text`, `Json.record` — values that are built of texts.
* `Json.isNothing` — the values that count as nothing at all.
* `Json.member?`, `Json.textAt`, `Json.textsAt`, `Json.flagAt` — reading the members of an object;
  what is missing reads as an empty text, an empty list or false.
-/

namespace Walkthrough

open Walkthrough.Text

inductive Json
  | null
  | bool (value : Bool)
  | int (value : Int)
  | float (value : Binary64)
  | string (value : Letters)
  | array (items : List Json)
  | object (members : List (Letters × Json))

namespace Json

def text (text : String) : Json := string text

def record (members : List (String × Json)) : Json :=
  object (members.map fun (key, value) => (Letters.ofString key, value))

/-- Whether a value counts as nothing at all: null, false, zero, an empty text, array or object. -/
def isNothing : Json → Bool
  | null => true
  | bool value => !value
  | int value => value == 0
  | float (.finite _ units) => units == 0
  | float _ => false
  | string value => value.isEmpty
  | array items => items.isEmpty
  | object members => members.isEmpty

/-- The value that belongs to a key of an object. -/
def member? (key : String) : Json → Option Json
  | object members => Table.get? (Letters.ofString key) members
  | _ => none

/-- The members of an object; any other value has none. -/
def members : Json → Table Letters Json
  | object members => members
  | _ => []

/-- The items of an array; any other value has none. -/
def items : Json → List Json
  | array items => items
  | _ => []

/-- The text that a value is; any other value reads as the empty text. -/
def asText : Json → Letters
  | string value => value
  | _ => []

/-- The truth value that a value is; any other value reads as false. -/
def asFlag : Json → Bool
  | bool value => value
  | _ => false

/-- The member of an object; what is missing reads as null. -/
def valueAt (json : Json) (key : String) : Json := (json.member? key).getD null

def textAt (json : Json) (key : String) : Letters := (json.valueAt key).asText

def flagAt (json : Json) (key : String) : Bool := (json.valueAt key).asFlag

def textsAt (json : Json) (key : String) : List Letters := (json.valueAt key).items.map asText

end Json

end Walkthrough

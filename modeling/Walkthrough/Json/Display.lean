import Walkthrough.Json.Basic
import Walkthrough.Number.Shortest
import Walkthrough.Text.Quoted

/-!
# Values in messages

A message that complains about a value shows it on one line: texts quoted, the items of arrays and
the members of objects after commas, and with `None`, `True` and `False` for the three words.
-/

namespace Walkthrough.Json

open Walkthrough.Text (Letters quoteLetters)

mutual

/-- A value as a message shows it. Its whole numbers must have no more digits than
`Number.digitLimit`, as they have in every value that was read: others cannot be shown. -/
def display : Json → String
  | null => "None"
  | bool value => if value then "True" else "False"
  | int value => toString value
  | float value => value.text
  | string value => quoteLetters value
  | array items => "[" ++ ", ".intercalate (displayItems items) ++ "]"
  | object members => "\x7b" ++ ", ".intercalate (displayMembers members) ++ "\x7d"

/-- Each item as a message shows it. -/
def displayItems : List Json → List String
  | [] => []
  | item :: items => display item :: displayItems items

/-- Each member as a message shows it. -/
def displayMembers : List (Letters × Json) → List String
  | [] => []
  | (key, value) :: members => (quoteLetters key ++ ": " ++ display value) :: displayMembers members

end

end Walkthrough.Json

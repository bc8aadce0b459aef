import Walkthrough.Json.Basic
import Walkthrough.Number.Shortest
import Walkthrough.Text.Letter

/-!
# Writing JSON

A value has one text for each layout. Only what must be escaped in a text is: the quotation mark,
the backslash and the control characters. Everything else is written as it is, a half of a character
that stands alone too, so what is written is a row of letters again.

* `Json.Layout` — where lines are broken; `indented` does it before every item.
* `Json.write` — the text of a value.
-/

namespace Walkthrough.Json

open Walkthrough.Text

/-- How the text of a value is laid out. -/
structure Layout where
  /-- What stands before an item inside so many brackets, and before the bracket that ends it. -/
  lineBreak : Nat → Letters
  /-- What stands between a key and its value. -/
  colon : Letters

/-- Each item on a line of its own, two spaces further in than its bracket. -/
def Layout.indented : Layout :=
  ⟨fun depth => Letter.char '\n' :: List.replicate (2 * depth) (Letter.char ' '), ": "⟩

def escapeChar (c : Char) : List Char :=
  if c = '"' ∨ c = '\\' then ['\\', c]
  else if c = '\n' then ['\\', 'n']
  else if c = '\r' then ['\\', 'r']
  else if c = '\t' then ['\\', 't']
  else if c = '\x08' then ['\\', 'b']
  else if c = '\x0c' then ['\\', 'f']
  else if c.toNat < 0x20 then '\\' :: 'u' :: hexDigits 4 c.toNat
  else [c]

def escapeLetter : Letter → Letters
  | .char c => (escapeChar c).map .char
  | .half number => [.half number]

def writeText (letters : Letters) : Letters :=
  Letter.char '"' :: letters.flatMap escapeLetter ++ [.char '"']

/-- A whole number of at most `Number.digitLimit` digits; others are neither written nor read. -/
def writeInt (n : Int) : Letters :=
  ((if n < 0 then ['-'] else []) ++ Nat.toDigits 10 n.natAbs).map .char

/-- A float; the numbers without digits have words. -/
def writeFloat : Binary64 → Letters
  | .undefined => "NaN"
  | .infinite negative => if negative then "-Infinity" else "Infinity"
  | number => number.text

mutual

/-- The text of a value that stands inside so many brackets. -/
def writeAt (layout : Layout) (depth : Nat) : Json → Letters
  | null => "null"
  | bool value => if value then "true" else "false"
  | int value => writeInt value
  | float value => writeFloat value
  | string value => writeText value
  | array [] => "[]"
  | array (item :: items) =>
    Letter.char '[' :: layout.lineBreak (depth + 1) ++ writeAt layout (depth + 1) item ++
      writeItems layout (depth + 1) items ++ layout.lineBreak depth ++ [.char ']']
  | object [] => "\x7b\x7d"
  | object ((key, value) :: members) =>
    Letter.char '{' :: layout.lineBreak (depth + 1) ++ writeText key ++ layout.colon ++
      writeAt layout (depth + 1) value ++ writeMembers layout (depth + 1) members ++
      layout.lineBreak depth ++ [.char '}']

/-- The items after the first, each after a comma. -/
def writeItems (layout : Layout) (depth : Nat) : List Json → Letters
  | [] => []
  | item :: items =>
    Letter.char ',' :: layout.lineBreak depth ++ writeAt layout depth item ++
      writeItems layout depth items

/-- The members after the first, each after a comma. -/
def writeMembers (layout : Layout) (depth : Nat) : List (Letters × Json) → Letters
  | [] => []
  | (key, value) :: members =>
    Letter.char ',' :: layout.lineBreak depth ++ writeText key ++ layout.colon ++
      writeAt layout depth value ++ writeMembers layout depth members

end

def write (layout : Layout) (json : Json) : Letters := writeAt layout 0 json

end Walkthrough.Json

import Walkthrough.Text.Letter
import Walkthrough.Text.Printable

/-!
# Quoted text

How a message shows a text: between quotes, with everything escaped that a reader could not see or
that would end the quotation.

* `quoteMark` — the single quote, unless the text holds single quotes and no double one.
* `quoteLetters` — the quoted letters.
* `quote` — the quoted text.
-/

namespace Walkthrough.Text

/-- The quotation mark for a text: the double one only where it saves escaping. -/
def quoteMark (letters : Letters) : Char :=
  if letters.contains (.char '\'') && !letters.contains (.char '"') then '"' else '\''

/-- A character of a quoted text. A character that cannot be printed is named by its code point, in
the shortest of the three forms that holds it. -/
def quoteChar (mark c : Char) : List Char :=
  if c = mark ∨ c = '\\' then ['\\', c]
  else if c = '\n' then ['\\', 'n']
  else if c = '\r' then ['\\', 'r']
  else if c = '\t' then ['\\', 't']
  else if isPrintable c then [c]
  else if c.toNat < 0x100 then '\\' :: 'x' :: hexDigits 2 c.toNat
  else if c.toNat < 0x10000 then '\\' :: 'u' :: hexDigits 4 c.toNat
  else '\\' :: 'U' :: hexDigits 8 c.toNat

/-- A letter of a quoted text. A half cannot be printed. -/
def quoteLetter (mark : Char) : Letter → List Char
  | .char c => quoteChar mark c
  | .half number => Letter.escape number

def quoteLetters (letters : Letters) : String :=
  let mark := quoteMark letters
  String.ofList (mark :: letters.flatMap (quoteLetter mark) ++ [mark])

def quote (text : String) : String := quoteLetters text

end Walkthrough.Text

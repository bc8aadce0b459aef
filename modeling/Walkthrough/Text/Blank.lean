import Walkthrough.Text.Ranges

/-!
# Blank characters

A line of a walkthrough is blank when it holds nothing but the characters below: the spaces, tabs
and line separators of Unicode together with the four information separators U+001C to U+001F.

* `isBlank` — the class itself.
* `trimBy` — a text without the characters of a class at its two ends.
* `trim` — a text without the blanks around it.
-/

namespace Walkthrough.Text

/-- The blank characters. The zero-width space U+200B and the byte order mark are not among them. -/
def blanks : Ranges :=
  [(0x09, 0x0D), (0x1C, 0x20), (0x85, 0x85), (0xA0, 0xA0), (0x1680, 0x1680), (0x2000, 0x200A),
    (0x2028, 0x2029), (0x202F, 0x202F), (0x205F, 0x205F), (0x3000, 0x3000)]

def isBlank (c : Char) : Bool := blanks.has c

/-- A text without the characters of a class at its two ends. -/
def trimBy (drop : Char → Bool) (cs : List Char) : List Char :=
  ((cs.dropWhile drop).reverse.dropWhile drop).reverse

/-- A text without the blanks around it. -/
def trim (text : String) : String :=
  String.ofList (trimBy isBlank text.toList)

/-- Whether a text holds blanks only; the empty text does. -/
def allBlank (cs : List Char) : Bool := cs.all isBlank

/-- The mark that opens a comment is not blank. -/
theorem isBlank_hash : isBlank '#' = false := by decide

end Walkthrough.Text

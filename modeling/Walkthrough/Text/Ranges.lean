/-!
# Sets of characters by code point

A class of characters that a standard fixes (blanks, digits, printable characters) is written
down as a list of inclusive ranges of code points. `Ranges.has` is membership.
-/

namespace Walkthrough.Text

/-- A set of characters, as inclusive ranges of code points. -/
abbrev Ranges := List (Nat × Nat)

/-- Whether the code point of a character lies in one of the ranges. -/
def Ranges.has (ranges : Ranges) (c : Char) : Bool :=
  ranges.any fun range => range.1 ≤ c.toNat && c.toNat ≤ range.2

end Walkthrough.Text

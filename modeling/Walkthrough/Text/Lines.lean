/-!
# Lines

A line ends at a carriage return, at a line feed, or at the pair of both, which counts once.

* `splitLines` — the lines of a text, without their ends. A text with no line end is one line.
* `unifyNewlines` — a text whose line ends are all written as a line feed.
-/

namespace Walkthrough.Text

/-- The lines of a text, without their ends. There is one more than there are line ends. -/
def splitLines : List Char → List (List Char)
  | [] => [[]]
  | '\r' :: '\n' :: cs => [] :: splitLines cs
  | '\r' :: cs => [] :: splitLines cs
  | '\n' :: cs => [] :: splitLines cs
  | c :: cs =>
    match splitLines cs with
    | [] => [[c]]
    | line :: lines => (c :: line) :: lines

/-- The same text with every line end written as a line feed. -/
def unifyNewlines : List Char → List Char
  | [] => []
  | '\r' :: '\n' :: cs => '\n' :: unifyNewlines cs
  | '\r' :: cs => '\n' :: unifyNewlines cs
  | c :: cs => c :: unifyNewlines cs

def lines (document : String) : List String :=
  (splitLines document.toList).map String.ofList

theorem splitLines_ne_nil (cs : List Char) : splitLines cs ≠ [] := by
  fun_cases splitLines cs <;> simp_all

end Walkthrough.Text

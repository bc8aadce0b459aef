import Walkthrough.Text.Blank
import Walkthrough.Text.Split

/-!
# The tokens of a line

A line of a walkthrough is literal text in which groups `{…}` stand for actions. A group is closed
by the first closing brace that leaves something inside it, and its fields are parted by `|`; groups
are not nested. Where blanks and then `#` come next, outside a group, the rest is a comment. A brace
that opens no group is skipped.

* `Token` — a literal or a group.
* `Piece` — what a line is cut into: the tokens, and the braces that are skipped.
* `Piece.next?` — the first piece of a text and the text after it, which is shorter.
* `Piece.cut` — all pieces up to the comment, if there is one.
* `Token.scan` — the tokens of a line.
-/

namespace Walkthrough

open Walkthrough.Text

inductive Token
  | literal (text : String)
  | group (fields : List String)
  deriving DecidableEq

namespace Token

/-- The fields of a group as they are written. -/
def writeFields (fields : List String) : List Char :=
  '{' :: join '|' (fields.map String.toList) ++ ['}']

def written : Token → List Char
  | literal text => text.toList
  | group fields => writeFields fields

end Token

inductive Piece
  | literal (text : List Char)
  /-- What stands between the braces of a group. -/
  | group (interior : List Char)
  /-- A brace that opens no group. -/
  | loneBrace
  deriving DecidableEq

namespace Piece

def written : Piece → List Char
  | literal text => text
  | group interior => '{' :: interior ++ ['}']
  | loneBrace => ['{']

/-- The token that a piece is; a lone brace is none. -/
def token? : Piece → Option Token
  | literal text => some (.literal (String.ofList text))
  | group interior => some (.group ((split '|' interior).map String.ofList))
  | loneBrace => none

/-- Whether a comment starts here, after any blanks. -/
def opensComment (cs : List Char) : Bool := (cs.dropWhile isBlank).head? == some '#'

/-- The inside of the group whose opening brace was just read, and the text after its closing brace:
the first that is not the first character. -/
def interior? : List Char → Option (List Char × List Char)
  | [] => none
  | c :: cs => (cutAt? '}' cs).map fun (before, after) => (c :: before, after)

/-- The characters that a literal is made of. -/
def isPlain (c : Char) : Bool := c != '{' && c != '#'

/-- The first piece of a text and the text after it. At the end of a text and at a comment there is
none. -/
def next? (cs : List Char) : Option (Piece × List Char) :=
  if opensComment cs then none
  else
    match cs with
    | [] => none
    | '{' :: rest =>
      match interior? rest with
      | some (interior, after) => some (.group interior, after)
      | none => some (.loneBrace, rest)
    | c :: rest => some (.literal (c :: rest.takeWhile isPlain), rest.dropWhile isPlain)

/-- The text of a group's inside, and its closing brace, are taken off. -/
theorem eq_of_interior? {cs interior after : List Char}
    (h : interior? cs = some (interior, after)) : cs = interior ++ '}' :: after := by
  cases cs with
  | nil => simp [interior?] at h
  | cons c cs =>
    obtain ⟨⟨before, after'⟩, hc, he⟩ := Option.map_eq_some_iff.1 h
    simp only [Prod.mk.injEq] at he
    obtain ⟨rfl, rfl⟩ := he
    simp [(eq_of_cutAt? hc).1]

/-- The text of the first piece is taken off. -/
theorem eq_of_next? {cs rest : List Char} {piece : Piece} (h : next? cs = some (piece, rest)) :
    cs = piece.written ++ rest := by
  fun_cases next? cs
  · simp_all [next?]
  · simp_all [next?]
  · rename_i body interior after hi hc
    simp only [next?, hi, hc] at h
    cases h
    simp [written, eq_of_interior? hi]
  · rename_i body hi hc
    simp only [next?, hi, hc] at h
    cases h
    rfl
  · rename_i c body hne hc
    simp only [next?, hc] at h
    cases h
    simp [written]

/-- No piece is empty. -/
theorem written_ne_nil_of_next? {cs rest : List Char} {piece : Piece}
    (h : next? cs = some (piece, rest)) : piece.written ≠ [] := by
  simp only [next?] at h
  split at h
  · simp at h
  · split at h
    · simp at h
    · split at h <;> cases h <;> simp [written]
    · cases h
      simp [written]

theorem length_next? {cs rest : List Char} {piece : Piece} (h : next? cs = some (piece, rest)) :
    rest.length < cs.length := by
  have := List.length_pos_iff.2 (written_ne_nil_of_next? h)
  have := congrArg List.length (eq_of_next? h)
  simp only [List.length_append] at this
  omega

/-- The pieces of a text up to its end or to a comment. -/
def cut (cs : List Char) : List Piece :=
  match _h : next? cs with
  | none => []
  | some (piece, rest) => piece :: cut rest
termination_by cs.length
decreasing_by exact length_next? ‹_›

end Piece

def Token.scan (line : String) : List Token := (Piece.cut line.toList).filterMap Piece.token?

end Walkthrough

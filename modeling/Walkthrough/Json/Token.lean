import Walkthrough.Json.Basic
import Walkthrough.Number.Literal
import Walkthrough.Text.Hex

/-!
# The tokens of a JSON text

A JSON text is a row of brackets, commas, colons and scalar values with white space between them.
Reading it into tokens always succeeds: where no token starts, an `invalid` one ends the row, and it
is for the reader of the row to say whether it was reached.

* `Json.Token` — the tokens.
* `Json.Token.next?` — the first token of a text and the text after it, which is shorter.
* `Json.Token.scan` — all tokens of a text.
-/

namespace Walkthrough.Json

open Walkthrough.Number Walkthrough.Text

inductive Token
  | beginArray
  | endArray
  | beginObject
  | endObject
  | comma
  | colon
  | null
  | bool (value : Bool)
  | int (value : Int)
  | float (value : Binary64)
  | string (value : Letters)
  /-- A whole number of more digits than `digitLimit`. -/
  | overlong (digits : Nat)
  /-- A place where no token starts. -/
  | invalid

namespace Token

/-- The white space of JSON. -/
def isSpace (c : Char) : Bool := c == ' ' || c == '\t' || c == '\n' || c == '\r'

/-! ## Texts -/

/-- The character that a letter stands for after a backslash. -/
def escaped? : Char → Option Char
  | '"' => some '"'
  | '\\' => some '\\'
  | '/' => some '/'
  | 'b' => some '\x08'
  | 'f' => some '\x0c'
  | 'n' => some '\n'
  | 'r' => some '\r'
  | 't' => some '\t'
  | _ => none

/-- The code points up to the quotation mark that ends a text, and what follows it. A character
above U+FFFF may be escaped as two halves, which are still apart here. Control characters must be
escaped. -/
def takeUnits : List Char → Option (List Nat × List Char)
  | [] => none
  | '"' :: rest => some ([], rest)
  | '\\' :: 'u' :: a :: b :: c :: d :: rest =>
    match hexUnit? a b c d, takeUnits rest with
    | some unit, some (units, after) => some (unit :: units, after)
    | _, _ => none
  | '\\' :: c :: rest =>
    match escaped? c, takeUnits rest with
    | some c, some (units, after) => some (c.toNat :: units, after)
    | _, _ => none
  | c :: rest =>
    if c.toNat < 0x20 then none
    else (takeUnits rest).map fun (units, after) => (c.toNat :: units, after)

/-! ## Numbers -/

/-- The value of a digit of ASCII, the only digits of JSON. -/
def digit? (c : Char) : Option Nat :=
  if c.isDigit then some (c.toNat - '0'.toNat) else none

/-- The digits before the point: a zero alone, or digits that do not start with zero. -/
def takeWhole : List Char → List Nat × List Char
  | '0' :: rest => ([0], rest)
  | cs => takeDigits digit? cs

/-- The token of a number without its sign. It is a float as soon as it has a fraction or an
exponent. -/
def takeMagnitude (negative : Bool) (cs : List Char) : Option (Token × List Char) :=
  let (whole, afterWhole) := takeWhole cs
  let (fraction, afterFraction) := takeFraction digit? 1 afterWhole
  let (exponent, rest) := takeExponent digit? afterFraction
  if whole = [] then none
  else if fraction ≠ [] ∨ exponent.isSome then
    some (.float (double negative whole fraction (exponent.getD 0)), rest)
  -- The limit is one of whole numbers: a float may be written with any number of digits.
  else if digitLimit < whole.length then some (.overlong whole.length, rest)
  else some (.int (if negative then -(ofDigits whole : Nat) else (ofDigits whole : Nat)), rest)

/-! ## Tokens -/

/-- The text after a word, if it starts with the word. -/
def afterWord? (word : List Char) (cs : List Char) : Option (List Char) :=
  if word.isPrefixOf cs then some (cs.drop word.length) else none

/-- The words of JSON, with those for the numbers that have no digits. -/
def words : List (List Char × Token) :=
  [("null".toList, .null), ("true".toList, .bool true), ("false".toList, .bool false),
    ("NaN".toList, .float .undefined), ("Infinity".toList, .float (.infinite false)),
    ("-Infinity".toList, .float (.infinite true))]

/-- A word that a text starts with, and the text after it. -/
def takeWord? (cs : List Char) : Option (Token × List Char) :=
  words.findSome? fun (word, token) => (afterWord? word cs).map ((token, ·))

/-- A word or a number that a text starts with. -/
def takeScalar? (cs : List Char) : Option (Token × List Char) :=
  -- A word may start with the sign of a number.
  match takeWord? cs with
  | some found => some found
  | none =>
    match cs with
    | '-' :: rest => takeMagnitude true rest
    | cs => takeMagnitude false cs

/-- The token that a text without white space before it starts with, and the text after it. -/
def next? : List Char → Option (Token × List Char)
  | '[' :: rest => some (.beginArray, rest)
  | ']' :: rest => some (.endArray, rest)
  | '{' :: rest => some (.beginObject, rest)
  | '}' :: rest => some (.endObject, rest)
  | ',' :: rest => some (.comma, rest)
  | ':' :: rest => some (.colon, rest)
  | '"' :: rest =>
    (takeUnits rest).map fun (units, after) => (.string (Letters.ofUnits units), after)
  | cs => takeScalar? cs

/-! ## Scanning ends -/

theorem length_takeUnits {cs : List Char} {units : List Nat} {after : List Char}
    (h : takeUnits cs = some (units, after)) : after.length < cs.length := by
  fun_induction takeUnits cs generalizing units after with
  | case1 => simp at h
  | case2 rest => simp_all
  | case3 a b c d rest unit units' after' ht hu ih =>
    have := ih ht
    simp only [Option.some.injEq, Prod.mk.injEq] at h
    simp only [List.length_cons, ← h.2]
    omega
  | case4 => simp at h
  | case5 c rest hne c' units' after' ht he ih =>
    have := ih ht
    simp only [Option.some.injEq, Prod.mk.injEq] at h
    simp only [List.length_cons, ← h.2]
    omega
  | case6 => simp at h
  | case7 => simp at h
  | case8 c rest _ _ hu hc ih =>
    obtain ⟨⟨units', after'⟩, ht, he⟩ := Option.map_eq_some_iff.1 h
    have := ih ht
    simp only [Prod.mk.injEq] at he
    simp only [List.length_cons, ← he.2]
    omega

theorem length_takeWhole (cs : List Char) :
    (takeWhole cs).1.length + (takeWhole cs).2.length = cs.length := by
  fun_cases takeWhole cs
  · simp [Nat.add_comm]
  · exact length_takeDigits _ _

theorem length_takeMagnitude {negative : Bool} {cs rest : List Char} {token : Token}
    (h : takeMagnitude negative cs = some (token, rest)) : rest.length < cs.length := by
  have hw := length_takeWhole cs
  have hf := length_takeFraction digit? 1 (takeWhole cs).2
  have he := length_takeExponent digit? (takeFraction digit? 1 (takeWhole cs).2).2
  have hpos := @List.length_pos_iff Nat (takeWhole cs).1
  simp only [takeMagnitude] at h
  grind

theorem length_afterWord? {word cs rest : List Char} (hw : word ≠ [])
    (h : afterWord? word cs = some rest) : rest.length < cs.length := by
  simp only [afterWord?] at h
  split at h
  · rename_i hp
    have := (List.isPrefixOf_iff_prefix.1 hp).length_le
    have := List.length_pos_iff.2 hw
    simp only [Option.some.injEq] at h
    subst h
    simp only [List.length_drop]
    omega
  · simp at h

theorem length_takeWord? {cs rest : List Char} {token : Token}
    (h : takeWord? cs = some (token, rest)) : rest.length < cs.length := by
  obtain ⟨⟨word, t⟩, hmem, hfound⟩ := List.exists_of_findSome?_eq_some h
  obtain ⟨after, ha, he⟩ := Option.map_eq_some_iff.1 hfound
  have hne : ∀ entry ∈ words, entry.1 ≠ [] := by simp [words]
  have := length_afterWord? (hne _ hmem) ha
  simp_all

theorem length_takeScalar? {cs rest : List Char} {token : Token}
    (h : takeScalar? cs = some (token, rest)) : rest.length < cs.length := by
  simp only [takeScalar?] at h
  split at h
  · rename_i found hw
    cases h
    exact length_takeWord? hw
  · split at h
    · exact Nat.lt_succ_of_lt (length_takeMagnitude h)
    · exact length_takeMagnitude h

/-- A token takes at least one character. -/
theorem length_next? {cs rest : List Char} {token : Token} (h : next? cs = some (token, rest)) :
    rest.length < cs.length := by
  unfold next? at h
  split at h
  case h_7 body =>
    obtain ⟨⟨units, after⟩, ht, he⟩ := Option.map_eq_some_iff.1 h
    have := length_takeUnits ht
    simp only [Prod.mk.injEq] at he
    simp only [List.length_cons, ← he.2]
    omega
  case h_8 => exact length_takeScalar? h
  all_goals simp_all

/-- The tokens of a text. A place where no token starts ends them. -/
def scan (cs : List Char) : List Token :=
  match _h : cs.dropWhile isSpace with
  | [] => []
  | c :: body =>
    match _hn : next? (c :: body) with
    | none => [.invalid]
    | some (token, rest) => token :: scan rest
termination_by cs.length
decreasing_by
  have := length_next? ‹next? _ = _›
  have := (List.dropWhile_suffix (l := cs) isSpace).length_le
  simp_all
  omega

end Token

end Walkthrough.Json

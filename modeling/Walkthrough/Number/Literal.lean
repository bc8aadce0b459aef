import Walkthrough.Number.Binary64
import Walkthrough.Text.Blank
import Walkthrough.Text.Digit

/-!
# Numbers as authors write them

Numbers in a walkthrough may be written with the digits of any script and with blanks around them.

* `readReal?` — a decimal number with an optional fraction and exponent, or one of the words for
  infinity and for the undefined number.
* `readWhole?` — a whole number, in which single underscores may stand between digits.
-/

namespace Walkthrough.Number

open Walkthrough.Text

/-- The most digits that a whole number may be written with, leading zeros included. -/
def digitLimit : Nat := 4300

/-- What is said of a whole number with more digits. -/
def overlongMessage (digits : Nat) : String :=
  "Exceeds the limit (" ++ toString digitLimit ++ " digits) for integer string conversion: " ++
    "value has " ++ toString digits ++ " digits; " ++
    "use sys.set_int_max_str_digits() to increase the limit"

/-- The blanks that may stand around a number: all but the four information separators. -/
def isMargin (c : Char) : Bool :=
  isBlank c && !(0x1C ≤ c.toNat && c.toNat ≤ 0x1F)

/-- The number that a row of digits stands for. -/
def ofDigits (digits : List Nat) : Nat := digits.foldl (fun n d => 10 * n + d) 0

/-- The digits that a text starts with, and the text after them. -/
def takeDigits (digit? : Char → Option Nat) : List Char → List Nat × List Char
  | [] => ([], [])
  | c :: cs =>
    match digit? c with
    | none => ([], c :: cs)
    | some d =>
      let (digits, rest) := takeDigits digit? cs
      (d :: digits, rest)

/-- The sign that a text may start with, whether it is negative, and the text after it. -/
def takeSign : List Char → Bool × List Char
  | '-' :: cs => (true, cs)
  | '+' :: cs => (false, cs)
  | cs => (false, cs)

/-- The digits after a point, where a point and at least so many digits come next. -/
def takeFraction (digit? : Char → Option Nat) (least : Nat) : List Char → List Nat × List Char
  | '.' :: cs =>
    let (digits, rest) := takeDigits digit? cs
    -- A point that is no part of the number stays in the text.
    if least ≤ digits.length then (digits, rest) else ([], '.' :: cs)
  | cs => ([], cs)

/-- The exponent of ten that a text starts with: a letter E, an optional sign, digits. -/
def takeExponent (digit? : Char → Option Nat) : List Char → Option Int × List Char
  | [] => (none, [])
  | c :: cs =>
    let (negative, afterSign) := takeSign cs
    let (digits, rest) := takeDigits digit? afterSign
    if (c = 'e' ∨ c = 'E') ∧ digits ≠ [] then
      (some (if negative then -(ofDigits digits : Nat) else (ofDigits digits : Nat)), rest)
    else (none, c :: cs)

/-- The double that a number with these digits is read as. -/
def double (negative : Bool) (whole fraction : List Nat) (exponent : Int) : Binary64 :=
  .ofDecimal negative (ofDigits (whole ++ fraction)) (exponent - fraction.length)

/-- An unsigned number: digits with an optional fraction, at least one digit in all, and an
optional exponent, up to the end of the text. -/
def readMagnitude? (negative : Bool) (cs : List Char) : Option Binary64 :=
  let (whole, afterWhole) := takeDigits decimalDigit? cs
  let (fraction, afterFraction) := takeFraction decimalDigit? 0 afterWhole
  let (exponent, rest) := takeExponent decimalDigit? afterFraction
  if whole ++ fraction = [] ∨ rest ≠ [] then none
  else some (double negative whole fraction (exponent.getD 0))

/-- The number that a text stands for. Letter case does not matter in the words. -/
def readReal? (text : String) : Option Binary64 :=
  let (negative, body) := takeSign (trimBy isMargin text.toList)
  let word := String.ofList (body.map Char.toLower)
  if word = "inf" ∨ word = "infinity" then some (.infinite negative)
  else if word = "nan" then some .undefined
  else readMagnitude? negative body

/-- Digits between which single underscores may stand. -/
def underscored : List Char → Option (List Nat)
  | [] => none
  | [c] => (decimalDigit? c).map ([·])
  | c :: '_' :: cs =>
    match decimalDigit? c, underscored cs with
    | some d, some ds => some (d :: ds)
    | _, _ => none
  | c :: cs =>
    match decimalDigit? c, underscored cs with
    | some d, some ds => some (d :: ds)
    | _, _ => none

/-- The whole number that a text stands for, if it has no more digits than `digitLimit`. -/
def readWhole? (text : String) : Option Int :=
  let (negative, body) := takeSign (trimBy isMargin text.toList)
  match underscored body with
  | none => none
  | some digits =>
    if digitLimit < digits.length then none
    else some (if negative then -(ofDigits digits : Nat) else (ofDigits digits : Nat))

/-! ## What is taken off a text is not longer than the text -/

theorem length_takeDigits (digit? : Char → Option Nat) (cs : List Char) :
    (takeDigits digit? cs).1.length + (takeDigits digit? cs).2.length = cs.length := by
  induction cs with
  | nil => rfl
  | cons c cs ih =>
    rw [takeDigits]
    split
    · simp
    · simp only [List.length_cons]
      omega

theorem length_takeSign (cs : List Char) : (takeSign cs).2.length ≤ cs.length := by
  fun_cases takeSign cs <;> simp

theorem length_takeFraction (digit? : Char → Option Nat) (least : Nat) (cs : List Char) :
    (takeFraction digit? least cs).2.length ≤ cs.length := by
  fun_cases takeFraction digit? least cs
  · rename_i cs digits rest hd h
    have := length_takeDigits digit? cs
    simp_all
    omega
  · simp
  · simp

theorem length_takeExponent (digit? : Char → Option Nat) (cs : List Char) :
    (takeExponent digit? cs).2.length ≤ cs.length := by
  fun_cases takeExponent digit? cs
  · simp
  · rename_i c cs negative afterSign hs digits rest hd h
    have := length_takeDigits digit? afterSign
    have := length_takeSign cs
    simp_all
    omega
  · simp

end Walkthrough.Number

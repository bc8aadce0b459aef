/-!
# Double precision numbers

A finite double is a whole number of *units* of 2^-1074, the least positive double, with a sign. So
every comparison, remainder and test for divisibility of doubles is one of natural numbers, and the
only inexact operation is the rounding back to a double.

* `Binary64` — the numbers, with both infinities and one undefined value.
* `Binary64.nearest` — the double nearest to a ratio of two natural numbers, of two equally near
  ones the one whose last bit is zero.
* `Binary64.ofDecimal` — the double that a decimal number is read as.
* `Binary64.toInt?` — the whole number a double is equal to, if there is one.
-/

namespace Walkthrough

/-- A double precision number. The magnitude of a finite one is `units · 2^-1074`. -/
inductive Binary64
  | finite (negative : Bool) (units : Nat)
  | infinite (negative : Bool)
  | undefined
  deriving DecidableEq

namespace Binary64

/-- How many units make one. -/
def one : Nat := Nat.pow 2 1074

theorem one_pos : 0 < one := by decide +kernel

/-- The least magnitude, in units, that no finite double has: 2^1024. -/
def limit : Nat := Nat.pow 2 2098

/-- The natural number nearest to a quotient; a half goes to the even neighbour. -/
def halfEven (num den : Nat) : Nat :=
  let floor := num / den
  let rest := 2 * (num % den)
  if rest < den then floor else if den < rest then floor + 1 else floor + floor % 2

/-- The distance in units from one double to the next at a magnitude: a double has 53 bits. -/
def spacing (units : Nat) : Nat := Nat.pow 2 (units.log2 + 1 - 53)

/-- The magnitude in units of the double nearest to `num / den` units, were there no `limit`. -/
def nearest (num den : Nat) : Nat :=
  let step := spacing (num / den)
  halfEven num (den * step) * step

def ofFraction (negative : Bool) (num den : Nat) : Binary64 :=
  let units := nearest (num * one) den
  if units < limit then .finite negative units else .infinite negative

/-- The double nearest to a whole number. -/
def ofInt (n : Int) : Binary64 := ofFraction (n < 0) n.natAbs 1

/-- The double nearest to `coefficient · 10^exponent`. Numbers of more than 400 digits before the
point are infinite, and those that start 400 digits after it are zero: this is decided without
computing the power. -/
def ofDecimal (negative : Bool) (coefficient : Nat) (exponent : Int) : Binary64 :=
  let size := (Nat.toDigits 10 coefficient).length + exponent
  if coefficient = 0 ∨ size < -400 then .finite negative 0
  else if 400 < size then .infinite negative
  else
    match exponent with
    | .ofNat e => ofFraction negative (coefficient * Nat.pow 10 e) 1
    | .negSucc e => ofFraction negative coefficient (Nat.pow 10 (e + 1))

/-- The whole number that a double is equal to. Negative zero is equal to zero. -/
def toInt? : Binary64 → Option Int
  | .finite negative units =>
    if units % one = 0 then
      some (if negative then -(units / one : Nat) else (units / one : Nat))
    else none
  | _ => none

/-- Whether a double is less than one. The undefined value is not. -/
def belowOne : Binary64 → Bool
  | .finite negative units => negative || units < one
  | .infinite negative => negative
  | .undefined => false

end Binary64

end Walkthrough

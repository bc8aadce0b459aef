import Walkthrough.Number.Binary64

/-!
# The shortest decimal text of a double

A double is written with the fewest digits that are read back as the same double; of several such
numbers of digits the one nearest to the double is taken, and of two equally near ones the one with
an even last digit.

The decimal numbers that are read as a given double are those of an interval around it, which
reaches half way to the next double on either side. For each number of digits the two neighbours of
the double on that decimal grid are tried: where the interval holds any point of the grid, it holds
one of these.

* `Binary64.Decimal` — the digits and the place of the point.
* `Binary64.shortest` — the shortest decimal of a positive double.
* `Binary64.text` — the written form, positional or with an exponent of ten.
-/

namespace Walkthrough.Binary64

structure Decimal where
  coefficient : Nat
  exponent : Int
  deriving DecidableEq

namespace Decimal

/-- Its numerator and denominator. -/
def fraction (d : Decimal) : Nat × Nat :=
  match d.exponent with
  | .ofNat e => (d.coefficient * Nat.pow 10 e, 1)
  | .negSucc e => (d.coefficient, Nat.pow 10 (e + 1))

/-- Whether it is read as the double of so many units: whether it lies in the interval that ends
half way to the doubles next to that one. The ends belong to the interval when the last bit of the
double is zero. At a power of two the double below is only half as far away. -/
def isReadAs (d : Decimal) (units : Nat) : Bool :=
  let (num, den) := d.fraction
  let step := spacing units
  let below := if 1 < step ∧ units = Nat.pow 2 units.log2 then step / 2 else step
  let value := 2 * num * one
  let low := (2 * units - below) * den
  let high := (2 * units + step) * den
  if units / step % 2 = 0 then low ≤ value && value ≤ high else low < value && value < high

end Decimal

/-- The decimal exponent of a positive fraction: it lies from `10^(e - 1)` up to `10^e`. -/
def magnitude (num den : Nat) : Int :=
  if den ≤ num then (Nat.toDigits 10 (num / den)).length
  else
    let size := (Nat.toDigits 10 (den / num)).length
    if den ≤ num * Nat.pow 10 (size - 1) then 2 - (size : Int) else 1 - (size : Int)

/-- The neighbours of a positive double on the decimal grid of step `10^exponent`, the preferred one
first: the nearer, and of two equally near ones the even. -/
def neighbours (units : Nat) (exponent : Int) : List Decimal :=
  let (num, den) := (Decimal.mk 1 exponent).fraction
  let floor := units * den / (num * one)
  let rest := 2 * (units * den % (num * one))
  if rest = 0 then [⟨floor, exponent⟩]
  else if rest < num * one ∨ (rest = num * one ∧ floor % 2 = 0) then
    [⟨floor, exponent⟩, ⟨floor + 1, exponent⟩]
  else [⟨floor + 1, exponent⟩, ⟨floor, exponent⟩]

/-- The first decimal that is read as the double, tried with more and more digits. -/
def shortest (units : Nat) : Decimal :=
  let top := magnitude units one
  let tried := (List.range 17).flatMap fun (k : Nat) => neighbours units (top - (k + 1))
  (tried.find? (·.isReadAs units)).getD ⟨units, 0⟩

/-- The digits of a decimal without zeros at the end, and the place of the point: the number is
`0.d₁d₂… · 10^place`. -/
def Decimal.layout (d : Decimal) : List Char × Int :=
  let digits := Nat.toDigits 10 d.coefficient
  ((digits.reverse.dropWhile (· == '0')).reverse, digits.length + d.exponent)

/-- A number that is below `10^16` and not below `10^-4` is written out, with at least one digit
after the point; any other is written with an exponent of ten, of two digits or more. -/
def layoutText (digits : List Char) (place : Int) : List Char :=
  if -4 < place ∧ place ≤ 16 then
    if place ≤ 0 then '0' :: '.' :: List.replicate place.natAbs '0' ++ digits
    else
      let before := place.toNat
      let whole := digits.take before ++ List.replicate (before - digits.length) '0'
      let fraction := digits.drop before
      whole ++ '.' :: (if fraction.isEmpty then ['0'] else fraction)
  else
    let power := place - 1
    let size := Nat.toDigits 10 power.natAbs
    digits.take 1 ++ (if digits.length ≤ 1 then [] else '.' :: digits.drop 1) ++
      'e' :: (if power < 0 then '-' else '+') ::
        (List.replicate (2 - size.length) '0' ++ size)

def text : Binary64 → String
  | .undefined => "nan"
  | .infinite negative => if negative then "-inf" else "inf"
  | .finite negative units =>
    let sign := if negative then ['-'] else []
    let body :=
      if units = 0 then ['0', '.', '0']
      else
        let (digits, place) := (shortest units).layout
        layoutText digits place
    String.ofList (sign ++ body)

end Walkthrough.Binary64

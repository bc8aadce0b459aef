import Walkthrough.Number.Literal

/-!
# Directions

A direction is written in degrees, clockwise, as a number that may be negative and of any size. It
is reduced to one turn and must then be a whole number of eighths of a turn.

The remainder by a turn is exact. A negative remainder is brought into the turn by adding a turn,
and the sum is rounded to a double, as a sum of doubles is: so a negative number that is nearer to
an eighth than doubles can tell counts as the eighth, and one that is nearer to zero is a full turn,
which is no direction.

* `Direction.remainder` — the magnitude of what is left of a number by whole turns.
* `Direction.ofNumber?` — the direction of a number of degrees; `Direction.ofUnits?_eq_some_iff`
  says which number of eighths it is.
-/

namespace Walkthrough.Direction

/-- A full turn in units of a double. -/
def turn : Nat := 360 * Binary64.one

/-- An eighth of a turn in units of a double. -/
def eighth : Nat := 45 * Binary64.one

theorem turn_eq : turn = eighth * 8 := by
  unfold turn eighth
  omega

theorem eighth_pos : 0 < eighth := Nat.mul_pos (by decide) Binary64.one_pos

theorem turn_pos : 0 < turn := Nat.mul_pos (by decide) Binary64.one_pos

/-- What is less than a turn has less than eight whole eighths. -/
theorem div_eighth_lt {rest : Nat} (h : rest < turn) : rest / eighth < 8 :=
  Nat.div_lt_of_lt_mul (turn_eq ▸ h)

/-- What is left in units of a double when whole turns are taken off; from zero to one turn. -/
def remainder (negative : Bool) (units : Nat) : Nat :=
  let rest := units % turn
  if negative ∧ rest ≠ 0 then Binary64.nearest (turn - rest) 1 else rest

/-- The direction that units of a double stand for. -/
def ofUnits? (negative : Bool) (units : Nat) : Option (Fin 8) :=
  let rest := remainder negative units
  if h : rest < turn ∧ rest % eighth = 0 then some ⟨rest / eighth, div_eighth_lt h.1⟩ else none

/-- The direction that a number of degrees stands for; infinite numbers stand for none. -/
def ofNumber? : Binary64 → Option (Fin 8)
  | .finite negative units => ofUnits? negative units
  | _ => none

variable {negative : Bool} {units : Nat} {eighths : Fin 8}

/-- A full turn is no direction. -/
theorem remainder_lt_of_ofUnits? (h : ofUnits? negative units = some eighths) :
    remainder negative units < turn := by
  rw [ofUnits?] at h
  by_cases hrest : remainder negative units < turn ∧ remainder negative units % eighth = 0
  · exact hrest.1
  · rw [dif_neg hrest] at h
    cases h

/-- The direction is the number of eighths that the remainder is equal to. -/
theorem ofUnits?_eq_some_iff :
    ofUnits? negative units = some eighths ↔ remainder negative units = eighths.val * eighth := by
  rw [ofUnits?]
  constructor
  · intro h
    by_cases hrest : remainder negative units < turn ∧ remainder negative units % eighth = 0
    · rw [dif_pos hrest] at h
      cases h
      exact (Nat.div_mul_cancel (Nat.dvd_of_mod_eq_zero hrest.2)).symm
    · rw [dif_neg hrest] at h
      cases h
  · intro h
    have hlt : remainder negative units < turn := by
      rw [h, turn_eq, Nat.mul_comm eighth]
      exact Nat.mul_lt_mul_of_pos_right eighths.isLt eighth_pos
    rw [dif_pos ⟨hlt, by rw [h, Nat.mul_mod_left]⟩]
    congr
    rw [h, Nat.mul_div_cancel _ eighth_pos]

end Walkthrough.Direction

import Mathlib.Algebra.Group.Nat.Defs
import Walkthrough.Number.Literal

/-!
# Rounding to doubles

A double has 53 bits, so from its first bit on it is a whole number of the distances that separate
doubles of its size. Rounding leads to such numbers and leaves them alone, and every number that is
read from a text is one.

* `Binary64.IsMagnitude` — units that a double can have;
* `Binary64.toRat?` — what a double is, exactly;
* `Binary64.toInt?_eq_some_iff`, `Binary64.belowOne_iff` — which whole number a double is equal to,
  and whether it is less than one;
* `Binary64.halfEven_near`, `Binary64.halfEven_eq` — the nearest whole number is at most half a unit
  away, and an even one that is at most half a unit away is the nearest;
* `Binary64.isMagnitude_nearest`, `Binary64.nearest_eq_self` — rounding leads to doubles and leaves
  doubles alone;
* `Number.isMagnitude_of_readReal?` — what is read from a text is a double.
-/

namespace Walkthrough

namespace Binary64

/-- A number of units that a double can have, were there no `limit`: a whole number of the distances
between doubles of its size. -/
def IsMagnitude (units : Nat) : Prop := spacing units ∣ units

/-- What a sign and a number of units stand for, in units. -/
def signed (negative : Bool) (units : Nat) : Int := if negative then -(units : Int) else units

theorem signed_false (units : Nat) : signed false units = units := rfl

theorem signed_true (units : Nat) : signed true units = -(units : Int) := rfl

/-- The exact value of a finite double. -/
def toRat? : Binary64 → Option Rat
  | .finite negative units => some (signed negative units / one)
  | _ => none

/-! ## Whole numbers -/

theorem signed_mul (negative : Bool) (a b : Nat) :
    signed negative (a * b) = signed negative a * b := by
  cases negative with
  | false => exact Int.natCast_mul a b
  | true => rw [signed_true, signed_true, Int.natCast_mul, Int.neg_mul]

theorem natAbs_signed (negative : Bool) (units : Nat) : (signed negative units).natAbs = units := by
  cases negative with
  | false => exact Int.natAbs_natCast units
  | true => rw [signed_true, Int.natAbs_neg, Int.natAbs_natCast]

theorem toRat?_finite_eq_iff {negative : Bool} {units : Nat} {n : Int} :
    toRat? (.finite negative units) = some (n : Rat) ↔ signed negative units = n * one := by
  have hone : ((one : Nat) : Rat) ≠ 0 := Rat.ne_of_gt (Rat.natCast_pos.mpr one_pos)
  rw [toRat?, Option.some.injEq, ← Rat.intCast_inj, Rat.intCast_mul, Rat.intCast_natCast]
  constructor
  · intro h
    rw [← h, Rat.div_mul_cancel hone]
  · intro h
    rw [h, Rat.mul_div_cancel hone]

/-- The whole number that a double is equal to is what it is, exactly. -/
theorem toInt?_eq_some_iff {x : Binary64} {n : Int} :
    x.toInt? = some n ↔ x.toRat? = some (n : Rat) := by
  cases x with
  | finite negative units =>
      have hint : toInt? (.finite negative units) =
          if units % one = 0 then some (signed negative (units / one)) else none := rfl
      rw [toRat?_finite_eq_iff, hint]
      have hpos := one_pos
      generalize one = step at hpos
      by_cases hdvd : step ∣ units
      · rw [if_pos (Nat.mod_eq_zero_of_dvd hdvd), Option.some.injEq]
        obtain ⟨k, rfl⟩ := hdvd
        rw [Nat.mul_div_cancel_left _ hpos, Nat.mul_comm, signed_mul]
        exact (Int.mul_eq_mul_right_iff (by omega)).symm
      · rw [if_neg fun hmod => hdvd (Nat.dvd_of_mod_eq_zero hmod)]
        refine iff_of_false nofun fun h => hdvd ⟨n.natAbs, ?_⟩
        rw [← natAbs_signed negative units, h, Int.natAbs_mul, Int.natAbs_natCast, Nat.mul_comm]
  | _ => simp [toInt?, toRat?]

/-- A double that is equal to a whole number is less than one exactly if the number is. -/
theorem belowOne_iff {x : Binary64} {n : Int} (h : x.toRat? = some (n : Rat)) :
    x.belowOne = true ↔ n < 1 := by
  cases x with
  | finite negative units =>
      have hunits := toRat?_finite_eq_iff.mp h
      have hpos : 0 < (one : Int) := Int.natCast_pos.mpr one_pos
      have hless : n < 1 ↔ signed negative units < one := by
        rw [hunits, ← Int.mul_lt_mul_right hpos, Int.one_mul]
      rw [belowOne, Bool.or_eq_true, decide_eq_true_iff, hless]
      cases negative with
      | false => exact (or_iff_right Bool.false_ne_true).trans Int.ofNat_lt.symm
      | true =>
          rw [signed_true]
          exact iff_of_true (.inl rfl) (by omega)
  | _ => cases h

/-! ## The distance between doubles -/

theorem spacing_pos (units : Nat) : 0 < spacing units := Nat.two_pow_pos _

theorem isPowerOfTwo_one : one.isPowerOfTwo := ⟨1074, by decide +kernel⟩

theorem isPowerOfTwo_spacing (units : Nat) : (spacing units).isPowerOfTwo := ⟨_, rfl⟩

theorem lt_spacing (units : Nat) : units < 2 ^ 53 * spacing units := by
  have hbits : units < 2 ^ (units.log2 + 1) := Nat.lt_log2_self
  have hpow : 2 ^ (units.log2 + 1) ≤ 2 ^ (53 + (units.log2 + 1 - 53)) :=
    Nat.pow_le_pow_right (by decide) (by omega)
  calc units < 2 ^ (units.log2 + 1) := hbits
    _ ≤ 2 ^ (53 + (units.log2 + 1 - 53)) := hpow
    _ = 2 ^ 53 * spacing units := Nat.pow_add 2 53 _

variable {units step : Nat}

/-- Below `2^53` steps doubles are at most a step apart. -/
theorem spacing_dvd_of_lt (hstep : step.isPowerOfTwo) (h : units < 2 ^ 53 * step) :
    spacing units ∣ step := by
  obtain ⟨k, rfl⟩ := hstep
  have hlog : units.log2 < 53 + k := by
    by_cases hzero : units = 0
    · rw [hzero, Nat.log2_zero]
      omega
    · exact (Nat.log2_lt hzero).mpr (Nat.pow_add 2 53 k ▸ h)
  exact Nat.pow_dvd_pow 2 (by omega)

/-- From `2^52` steps on they are at least a step apart. -/
theorem dvd_spacing_of_le (hstep : step.isPowerOfTwo) (h : 2 ^ 52 * step ≤ units) :
    step ∣ spacing units := by
  have hpos : 0 < 2 ^ 52 * step := Nat.mul_pos (Nat.two_pow_pos 52) (Nat.pos_of_isPowerOfTwo hstep)
  obtain ⟨k, rfl⟩ := hstep
  have hlog : 52 + k ≤ units.log2 := (Nat.le_log2 (by omega)).mpr (Nat.pow_add 2 52 k ▸ h)
  exact Nat.pow_dvd_pow 2 (by omega)

/-! ## The nearest whole number -/

theorem halfEven_near (num : Nat) {den : Nat} (hden : 0 < den) :
    2 * (halfEven num den * den) ≤ 2 * num + den ∧
      2 * num ≤ 2 * (halfEven num den * den) + den := by
  have hdivision : num = num / den * den + num % den := (Nat.div_add_mod' num den).symm
  have hrest : num % den < den := Nat.mod_lt num hden
  have hnext : (num / den + 1) * den = num / den * den + den := Nat.succ_mul _ _
  unfold halfEven
  simp only []
  split
  · omega
  · split
    · omega
    · -- Half a unit is left over, and either neighbour is as near.
      rcases Nat.mod_two_eq_zero_or_one (num / den) with heven | hodd
      · rw [heven, Nat.add_zero]
        omega
      · rw [hodd]
        omega

theorem halfEven_le {num den m : Nat} (h : num < m * den) : halfEven num den ≤ m := by
  have hfloor : num / den < m := Nat.div_lt_of_lt_mul (Nat.mul_comm m den ▸ h)
  unfold halfEven
  simp only []
  split
  · omega
  · split
    · omega
    · omega

theorem halfEven_eq {num den m : Nat} (hden : 0 < den) (heven : m % 2 = 0)
    (hlow : 2 * (m * den) ≤ 2 * num + den) (hhigh : 2 * num ≤ 2 * (m * den) + den) :
    halfEven num den = m := by
  have hdivision : num = num / den * den + num % den := (Nat.div_add_mod' num den).symm
  have hrest : num % den < den := Nat.mod_lt num hden
  have hm : m = num / den ∨ m = num / den + 1 := by
    have hleast : num / den ≤ m := by
      refine Nat.le_of_not_lt fun hlt => ?_
      have := Nat.mul_le_mul_right den (show m + 1 ≤ num / den from hlt)
      rw [Nat.succ_mul] at this
      omega
    have hmost : m ≤ num / den + 1 := by
      refine Nat.le_of_not_lt fun hgt => ?_
      have := Nat.mul_le_mul_right den (show num / den + 2 ≤ m from hgt)
      rw [Nat.add_mul] at this
      omega
    omega
  have hnext : (num / den + 1) * den = num / den * den + den := Nat.succ_mul _ _
  unfold halfEven
  simp only []
  rcases hm with rfl | rfl
  · rw [heven]
    split
    · rfl
    · rw [if_neg (by omega), Nat.add_zero]
  · rw [if_neg (by omega)]
    split
    · rfl
    · omega

/-! ## Rounding -/

theorem nearest_one :
    nearest units 1 = halfEven units (spacing units) * spacing units := by
  rw [nearest, Nat.div_one, Nat.one_mul]

/-- A double is the nearest one to itself. -/
theorem nearest_eq_self (h : IsMagnitude units) : nearest units 1 = units := by
  have hmod : units % spacing units = 0 := Nat.mod_eq_zero_of_dvd h
  rw [nearest_one, halfEven]
  simp only [hmod, Nat.mul_zero]
  rw [if_pos (spacing_pos units), Nat.div_mul_cancel h]

/-- Up to `2^53` steps are doubles. -/
theorem isMagnitude_mul {m : Nat} (hstep : step.isPowerOfTwo) (h : m ≤ 2 ^ 53) :
    IsMagnitude (m * step) := by
  rcases Nat.lt_or_eq_of_le h with hlt | rfl
  · have hspacing : spacing (m * step) ∣ step :=
      spacing_dvd_of_lt hstep (Nat.mul_lt_mul_of_pos_right hlt (Nat.pos_of_isPowerOfTwo hstep))
    exact Nat.dvd_mul_left_of_dvd hspacing m
  · obtain ⟨k, rfl⟩ := hstep
    rw [← Nat.pow_add, IsMagnitude, spacing, Nat.log2_two_pow]
    exact Nat.pow_dvd_pow 2 (by omega)

/-- Rounding leads to a double. -/
theorem isMagnitude_nearest (num : Nat) {den : Nat} (hden : 0 < den) :
    IsMagnitude (nearest num den) := by
  have hstep : 0 < den * spacing (num / den) := Nat.mul_pos hden (spacing_pos _)
  have hnum : num < 2 ^ 53 * (den * spacing (num / den)) := by
    have := (Nat.div_lt_iff_lt_mul hden).mp (lt_spacing (num / den))
    rwa [Nat.mul_assoc, Nat.mul_comm (spacing _)] at this
  rw [nearest]
  exact isMagnitude_mul (isPowerOfTwo_spacing _) (halfEven_le hnum)

theorem isMagnitude_ofFraction {negative sign : Bool} {num den units : Nat} (hden : 0 < den)
    (h : ofFraction negative num den = .finite sign units) : IsMagnitude units := by
  rw [ofFraction] at h
  by_cases hlimit : nearest (num * one) den < limit
  · rw [if_pos hlimit] at h
    cases h
    exact isMagnitude_nearest _ hden
  · rw [if_neg hlimit] at h
    cases h

theorem isMagnitude_ofDecimal {negative sign : Bool} {coefficient units : Nat} {exponent : Int}
    (h : ofDecimal negative coefficient exponent = .finite sign units) : IsMagnitude units := by
  unfold ofDecimal at h
  simp only [] at h
  split at h
  · cases h
    exact Nat.dvd_zero _
  · split at h
    · cases h
    · cases exponent with
      | ofNat e => exact isMagnitude_ofFraction Nat.one_pos h
      | negSucc e => exact isMagnitude_ofFraction (Nat.pow_pos (by decide)) h

end Binary64

namespace Number

theorem eq_double_of_readMagnitude? {negative : Bool} {cs : List Char} {number : Binary64}
    (h : readMagnitude? negative cs = some number) :
    ∃ whole fraction exponent, number = double negative whole fraction exponent := by
  unfold readMagnitude? at h
  simp only [] at h
  split at h
  · cases h
  · exact ⟨_, _, _, (Option.some.inj h).symm⟩

/-- What is read from a text is a double. -/
theorem isMagnitude_of_readReal? {text : String} {negative : Bool} {units : Nat}
    (h : readReal? text = some (.finite negative units)) : Binary64.IsMagnitude units := by
  unfold readReal? at h
  simp only [] at h
  split at h
  · cases h
  · split at h
    · cases h
    · obtain ⟨whole, fraction, exponent, hdouble⟩ := eq_double_of_readMagnitude? h
      exact Binary64.isMagnitude_ofDecimal hdouble.symm

end Number

end Walkthrough

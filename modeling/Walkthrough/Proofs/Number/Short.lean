import Walkthrough.Number.Literal

/-!
# Numbers that are not too long

A whole number of more than `Number.digitLimit` digits is neither read nor printed. What is read is
never so long, whatever it is read from; so whatever the program shows of it can be shown.

* `Number.IsShort` — whether a number has not too many digits;
* `Number.isShort_ofDigits` — so many digits make no longer number;
* `Number.isShort_of_readWhole?` — the numbers that authors write are short.
-/

namespace Walkthrough.Number

open Walkthrough.Text

/-- Whether a number has no more digits than can be printed and read. -/
def IsShort (n : Nat) : Prop := (Nat.toDigits 10 n).length ≤ digitLimit

instance : DecidablePred IsShort := fun n =>
  inferInstanceAs (Decidable ((Nat.toDigits 10 n).length ≤ digitLimit))

theorem isShort_of_lt {n : Nat} (h : n < digitLimit) : IsShort n :=
  (Nat.length_toDigits_le_iff (by decide) (by decide)).mpr
    (Nat.lt_trans h (Nat.lt_pow_self (by decide)))

theorem isShort_ofDigits {digits : List Nat} (hdigits : ∀ d ∈ digits, d < 10)
    (hlength : digits.length ≤ digitLimit) : IsShort (ofDigits digits) := by
  -- What the digits so far come to is in front of those that are left.
  have general (n : Nat) :
      digits.foldl (fun n d => 10 * n + d) n < (n + 1) * 10 ^ digits.length := by
    clear hlength
    induction digits generalizing n with
    | nil => simp
    | cons d digits ih =>
        obtain ⟨hd, hdigits⟩ := List.forall_mem_cons.mp hdigits
        calc (d :: digits).foldl (fun n d => 10 * n + d) n
            < (10 * n + d + 1) * 10 ^ digits.length := ih hdigits (10 * n + d)
          _ ≤ ((n + 1) * 10) * 10 ^ digits.length := Nat.mul_le_mul_right _ (by omega)
          _ = (n + 1) * 10 ^ (d :: digits).length := by
            rw [List.length_cons, Nat.pow_succ', Nat.mul_assoc]
  have hlt := general 0
  rw [Nat.zero_add, Nat.one_mul] at hlt
  exact (Nat.length_toDigits_le_iff (by decide) (by decide)).mpr
    (Nat.lt_of_lt_of_le hlt (Nat.pow_le_pow_right (by decide) hlength))

/-- A sign makes a number no longer. -/
theorem isShort_natAbs {n : Nat} (h : IsShort n) (negative : Bool) :
    IsShort (if negative then -(n : Int) else n).natAbs := by
  cases negative with
  | false => exact h
  | true => rwa [if_pos rfl, Int.natAbs_neg, Int.natAbs_natCast]

theorem lt_of_mem_underscored {cs : List Char} {digits : List Nat}
    (h : underscored cs = some digits) : ∀ d ∈ digits, d < 10 := by
  fun_induction underscored cs generalizing digits with
  | case1 => cases h
  | case2 c =>
      obtain ⟨d, hd, rfl⟩ := Option.map_eq_some_iff.mp h
      exact List.forall_mem_singleton.mpr (decimalDigit?_lt hd)
  | case3 c cs d ds hds hd ih =>
      obtain rfl := Option.some.inj h
      exact List.forall_mem_cons.mpr ⟨decimalDigit?_lt hd, ih hds⟩
  | case4 => cases h
  | case5 c cs _ _ d ds hds hd ih =>
      obtain rfl := Option.some.inj h
      exact List.forall_mem_cons.mpr ⟨decimalDigit?_lt hd, ih hds⟩
  | case6 => cases h

theorem isShort_of_readWhole? {text : String} {n : Int} (h : readWhole? text = some n) :
    IsShort n.natAbs := by
  obtain ⟨negative, body, hsign⟩ : ∃ negative body,
      takeSign (trimBy isMargin text.toList) = (negative, body) := ⟨_, _, rfl⟩
  rw [readWhole?, hsign] at h
  cases hdigits : underscored body with
  | none => simp only [hdigits] at h; cases h
  | some digits =>
      simp only [hdigits] at h
      by_cases hlength : digitLimit < digits.length
      · rw [if_pos hlength] at h
        cases h
      · rw [if_neg hlength] at h
        obtain rfl := Option.some.inj h
        exact isShort_natAbs
          (isShort_ofDigits (lt_of_mem_underscored hdigits) (Nat.le_of_not_lt hlength)) negative

end Walkthrough.Number

import Mathlib.Tactic.Linarith
import Mathlib.Tactic.Ring
import Walkthrough.Proofs.Number.Rounding
import Walkthrough.Proofs.Travel.Rules

/-!
# Which numbers are directions

Every multiple of 45 degrees is a direction, whatever its sign and its size. The converse is not
true: a negative number is brought into the turn by a sum that is rounded, and next to -45 and to
-90 there are doubles whose sums are rounded to seven and to six eighths. There are no others.

* `Direction.CountsAs` — multiples, and what is taken for a multiple;
* `Direction.nearest_sum_eq`, `Direction.near_of_nearest` — from 128 degrees on the sum is exact,
  and below it can only be rounded to six or seven eighths;
* `Direction.ofUnits?_eq_some_iff_countsAs` — which double is which direction;
* `directions_are_multiples_up_to_rounding`, `hardly_more_than_an_eighth_is_an_eighth` — what is
  accepted, and that this is more than the multiples;
* `multiples_of_45_are_directions` — the multiples are accepted, and no direction is out of range.
-/

namespace Walkthrough

open Binary64

namespace Direction

/-! ## Multiples of an eighth -/

/-- Up to a turn every eighth is a double. -/
theorem isMagnitude_eighths {m : Nat} (h : m ≤ 8) : IsMagnitude (m * eighth) := by
  rw [eighth, ← Nat.mul_assoc]
  exact isMagnitude_mul isPowerOfTwo_one (by omega)

theorem mul_mod_turn (n : Nat) : n * eighth % turn = n % 8 * eighth := by
  rw [turn_eq, Nat.mul_comm eighth 8, Nat.mul_mod_mul_right]

/-- A multiple of an eighth leaves a whole number of eighths, whatever its sign and size. -/
theorem remainder_mul (negative : Bool) (n : Nat) :
    remainder negative (n * eighth) =
      (if negative then (8 - n % 8) % 8 else n % 8) * eighth := by
  unfold remainder
  simp only [mul_mod_turn]
  cases negative with
  | false => simp
  | true =>
      by_cases hzero : n % 8 = 0
      · simp [hzero]
      · have hrest : n % 8 * eighth ≠ 0 := Nat.mul_ne_zero hzero (Nat.ne_of_gt eighth_pos)
        have hsum : turn - n % 8 * eighth = (8 - n % 8) * eighth := by
          rw [turn_eq, Nat.sub_mul, Nat.mul_comm]
        rw [if_pos ⟨rfl, hrest⟩, hsum, nearest_eq_self (isMagnitude_eighths (by omega)), if_pos rfl,
          Nat.mod_eq_of_lt (by omega : 8 - n % 8 < 8)]

/-! ## Sums with a turn -/

/-- By how far a double may miss an eighth and yet be taken for it, in units: `2^-45`. It is half
the distance between the doubles just below a turn. -/
def slack : Nat := Nat.pow 2 1029

theorem slack_pos : 0 < slack := by decide +kernel

theorem isPowerOfTwo_slack : slack.isPowerOfTwo := ⟨1029, by decide +kernel⟩

theorem isPowerOfTwo_slack_mul_two : (slack * 2).isPowerOfTwo :=
  Nat.isPowerOfTwo_mul_two_of_isPowerOfTwo isPowerOfTwo_slack

theorem one_eq : one = 2 ^ 45 * slack := by decide +kernel

theorem eighth_eq : eighth = 45 * 2 ^ 45 * slack := by rw [eighth, one_eq, Nat.mul_assoc]

theorem turn_eq_slack : turn = 180 * 2 ^ 45 * (slack * 2) := by
  rw [turn_eq, eighth_eq]
  omega

theorem spacing_dvd_of_le_turn {units : Nat} (h : units ≤ turn) : spacing units ∣ slack * 2 := by
  rw [turn_eq_slack] at h
  exact spacing_dvd_of_lt isPowerOfTwo_slack_mul_two (by have := slack_pos; omega)

/-- A number from 128 degrees on is taken off a turn exactly: it has no finer bits than what is
left. -/
theorem spacing_sum_dvd {units : Nat} (h : 128 * one ≤ units) :
    spacing (turn - units % turn) ∣ spacing units := by
  rw [one_eq] at h
  by_cases hbig : 256 * 2 ^ 45 * slack ≤ units
  · have hstep : slack * 2 ∣ spacing units :=
      dvd_spacing_of_le isPowerOfTwo_slack_mul_two (by omega)
    exact Nat.dvd_trans (spacing_dvd_of_le_turn (Nat.sub_le _ _)) hstep
  · have hstep : slack ∣ spacing units := dvd_spacing_of_le isPowerOfTwo_slack (by omega)
    refine Nat.dvd_trans (spacing_dvd_of_lt isPowerOfTwo_slack ?_) hstep
    rw [turn_eq_slack, Nat.mod_eq_of_lt (by omega)]
    omega

/-- So the sum of such a number and a turn is not rounded. -/
theorem nearest_sum_eq {units : Nat} (hunits : IsMagnitude units) (h : 128 * one ≤ units) :
    nearest (turn - units % turn) 1 = turn - units % turn := by
  have hturn : spacing (turn - units % turn) ∣ turn := by
    refine Nat.dvd_trans (spacing_dvd_of_le_turn (Nat.sub_le _ _)) ?_
    rw [turn_eq_slack]
    exact Nat.dvd_mul_left _ _
  have hrest : spacing (turn - units % turn) ∣ units % turn :=
    (Nat.dvd_mod_iff hturn).mpr (Nat.dvd_trans (spacing_sum_dvd h) hunits)
  exact nearest_eq_self (Nat.dvd_sub hturn hrest)

/-- Up to a turn, rounding changes a number by no more than `slack`. -/
theorem nearest_near {sum : Nat} (h : sum ≤ turn) :
    nearest sum 1 ≤ sum + slack ∧ sum ≤ nearest sum 1 + slack := by
  have hspacing : spacing sum ≤ slack * 2 :=
    Nat.le_of_dvd (Nat.mul_pos slack_pos (by decide)) (spacing_dvd_of_le_turn h)
  have hnear := halfEven_near sum (spacing_pos sum)
  rw [nearest_one]
  omega

/-- What is that near to six or seven eighths is rounded to them. -/
theorem nearest_of_near {sum m : Nat} (hm : m = 6 ∨ m = 7) (hlow : m * eighth ≤ sum + slack)
    (hhigh : sum ≤ m * eighth + slack) : nearest sum 1 = m * eighth := by
  have hpos := slack_pos
  have hmul : m * eighth = m * 45 * 2 ^ 44 * (slack * 2) := by
    rw [eighth_eq]
    rcases hm with rfl | rfl <;> omega
  rw [hmul] at hlow hhigh ⊢
  have hspacing : spacing sum = slack * 2 := by
    apply Nat.dvd_antisymm
    · exact spacing_dvd_of_lt isPowerOfTwo_slack_mul_two (by rcases hm with rfl | rfl <;> omega)
    · exact dvd_spacing_of_le isPowerOfTwo_slack_mul_two (by rcases hm with rfl | rfl <;> omega)
  have hhalf : halfEven sum (slack * 2) = m * 45 * 2 ^ 44 :=
    halfEven_eq (by omega) (by omega) (by omega) (by omega)
  rw [nearest_one, hspacing, hhalf]

/-! ## The direction of a number of degrees -/

/-- A number of degrees counts as `k` eighths if it is equal to them. Besides, what is at most
`2^-45` away from one or two eighths in the negative counts as these. -/
def CountsAs (degrees : Rat) (k : Int) : Prop :=
  degrees = 45 * k ∨ (k = -1 ∨ k = -2) ∧ |degrees - 45 * k| ≤ 1 / 2 ^ 45

/-- A multiple of 45 is whole. -/
theorem den_eq_one {degrees : Rat} {k : Int} (h : degrees = 45 * k) : degrees.den = 1 := by
  have hcast : degrees = ((45 * k : Int) : Rat) := by rw [h, Int.cast_mul, Int.cast_ofNat]
  rw [hcast, Rat.den_intCast]

theorem eq_eighths_iff {units k : Int} : (units / one : Rat) = 45 * k ↔ units = k * eighth := by
  have hpos := one_pos
  unfold eighth
  generalize one = one at hpos ⊢
  have hone : (one : Rat) ≠ 0 := Nat.cast_ne_zero.mpr (Nat.ne_of_gt hpos)
  have heighth : ((k * (45 * one : Nat) : Int) : Rat) = 45 * k * one := by
    push_cast
    ring
  rw [div_eq_iff hone, ← heighth, Int.cast_inj]

theorem near_eighths_iff {units k : Int} :
    |(units / one : Rat) - 45 * k| ≤ 1 / 2 ^ 45 ↔
      units ≤ k * eighth + slack ∧ k * eighth ≤ units + slack := by
  have hpos := slack_pos
  rw [eighth_eq, one_eq]
  generalize slack = slack at hpos ⊢
  have hone : (0 : Rat) < (2 ^ 45 * slack : Nat) := Nat.cast_pos.mpr (by omega)
  have hhigh : (1 / 2 ^ 45 + 45 * k : Rat) * (2 ^ 45 * slack : Nat) =
      (k * (45 * 2 ^ 45 * slack : Nat) + slack : Int) := by
    push_cast
    ring
  have hlow : (45 * k - 1 / 2 ^ 45 : Rat) * (2 ^ 45 * slack : Nat) =
      (k * (45 * 2 ^ 45 * slack : Nat) - slack : Int) := by
    push_cast
    ring
  rw [abs_sub_le_iff, sub_le_iff_le_add, sub_le_comm, div_le_iff₀ hone, le_div_iff₀ hone, hhigh,
    hlow, Int.cast_le, Int.cast_le, sub_le_iff_le_add]

/-- The same in units. -/
def CountsAsUnits (units k : Int) : Prop :=
  units = k * eighth ∨
    (k = -1 ∨ k = -2) ∧ units ≤ k * eighth + slack ∧ k * eighth ≤ units + slack

theorem countsAs_iff {units k : Int} : CountsAs (units / one) k ↔ CountsAsUnits units k := by
  rw [CountsAs, CountsAsUnits, eq_eighths_iff, near_eighths_iff]

variable {negative : Bool} {units m : Nat} {k : Int}

theorem remainder_negative (hrest : units % turn ≠ 0) :
    remainder true units = nearest (turn - units % turn) 1 := if_pos ⟨rfl, hrest⟩

/-- A multiple of an eighth is the direction that it should be. -/
theorem remainder_of_eq (h : signed negative units = k * eighth) :
    remainder negative units = (k % 8).toNat * eighth := by
  have hunits : units = k.natAbs * eighth := by
    have hsize := congrArg Int.natAbs h
    rw [Int.natAbs_mul, Int.natAbs_natCast] at hsize
    rw [← hsize]
    cases negative <;> simp [signed]
  have hpos : (0 : Int) < eighth := Int.natCast_pos.mpr eighth_pos
  rw [hunits, remainder_mul]
  congr 1
  cases negative with
  | false =>
      rw [signed_false] at h
      have hsign : 0 ≤ k := by
        refine Int.not_lt.mp fun hk => ?_
        have := Int.mul_neg_of_neg_of_pos hk hpos
        omega
      rw [if_neg Bool.false_ne_true]
      omega
  | true =>
      rw [signed_true] at h
      have hsign : k ≤ 0 := by
        refine Int.not_lt.mp fun hk => ?_
        have := Int.mul_pos hk hpos
        omega
      rw [if_pos rfl]
      omega

/-- Next to one or two eighths in the negative the sum with a turn is rounded to seven or six. -/
theorem remainder_of_near (hm : m = 6 ∨ m = 7) (hhigh : units ≤ (8 - m) * eighth + slack)
    (hlow : (8 - m) * eighth ≤ units + slack) : remainder true units = m * eighth := by
  have hpos := slack_pos
  have heighth := eighth_eq
  have hturn := turn_eq
  have hsame : units % turn = units := Nat.mod_eq_of_lt (by rcases hm with rfl | rfl <;> omega)
  rw [remainder_negative (by rcases hm with rfl | rfl <;> omega), hsame]
  apply nearest_of_near hm
  · rcases hm with rfl | rfl <;> omega
  · rcases hm with rfl | rfl <;> omega

/-- What counts as a number of eighths leaves as many of them as this number does. -/
theorem remainder_of_countsAs (h : CountsAsUnits (signed negative units) k) :
    remainder negative units = (k % 8).toNat * eighth := by
  rcases h with heq | ⟨hk, hhigh, hlow⟩
  · exact remainder_of_eq heq
  · have hpos := slack_pos
    have heighth := eighth_eq
    cases negative with
    | false =>
        -- A number that is not negative is nowhere near.
        rw [signed_false] at hhigh
        rcases hk with rfl | rfl <;> omega
    | true =>
        rw [signed_true] at hhigh hlow
        rcases hk with rfl | rfl
        · rw [show ((-1 : Int) % 8).toNat = 7 from rfl]
          exact remainder_of_near (.inr rfl) (by omega) (by omega)
        · rw [show ((-2 : Int) % 8).toNat = 6 from rfl]
          exact remainder_of_near (.inl rfl) (by omega) (by omega)

/-- What leaves a whole number of eighths is one. -/
theorem eighths_of_mod (hm : m < 8) (h : units % turn = m * eighth) :
    ∃ n, units = n * eighth ∧ n % 8 = m := by
  refine ⟨units / turn * 8 + m, ?_, by omega⟩
  rw [Nat.add_mul, Nat.mul_assoc, Nat.mul_comm 8, ← turn_eq, ← h]
  exact (Nat.div_add_mod' units turn).symm

/-- Where the sum of a number below 128 degrees and a turn is rounded to a whole number of eighths,
these are six or seven. -/
theorem near_of_nearest (hm : m < 8) (hunits : units < 128 * one)
    (h : nearest (turn - units) 1 = m * eighth) :
    (m = 6 ∨ m = 7) ∧ units ≤ (8 - m) * eighth + slack ∧ (8 - m) * eighth ≤ units + slack := by
  have hpos := slack_pos
  obtain ⟨hhigh, hlow⟩ := nearest_near (Nat.sub_le turn units)
  rw [h, turn_eq, eighth_eq] at hhigh hlow
  rw [one_eq] at hunits
  rw [eighth_eq]
  have hleast : 6 ≤ m := by
    refine Nat.le_of_not_lt fun hless => ?_
    have := Nat.mul_le_mul_right (45 * 2 ^ 45 * slack) (Nat.le_of_lt_succ hless)
    omega
  obtain rfl | rfl : m = 6 ∨ m = 7 := by omega
  · exact ⟨.inl rfl, by omega, by omega⟩
  · exact ⟨.inr rfl, by omega, by omega⟩

/-- A double that leaves a whole number of eighths counts as a number of eighths that does so. -/
theorem exists_countsAs (hunits : IsMagnitude units) (hm : m < 8)
    (h : remainder negative units = m * eighth) :
    ∃ k : Int, (m : Int) = k % 8 ∧ CountsAsUnits (signed negative units) k := by
  cases negative with
  | false =>
      have hrest : units % turn = m * eighth := by rwa [remainder, if_neg (by simp)] at h
      obtain ⟨n, heq, hn⟩ := eighths_of_mod hm hrest
      refine ⟨n, by omega, .inl ?_⟩
      rw [signed_false, heq, Int.natCast_mul]
  | true =>
      by_cases hrest : units % turn = 0
      · have hzero : m * eighth = 0 := by rw [← h, remainder, if_neg (by simp [hrest]), hrest]
        obtain rfl : m = 0 := (Nat.mul_eq_zero.mp hzero).resolve_right (Nat.ne_of_gt eighth_pos)
        obtain ⟨n, heq, hn⟩ := eighths_of_mod hm (hrest.trans hzero.symm)
        refine ⟨-n, by omega, .inl ?_⟩
        rw [signed_true, heq, Int.natCast_mul, Int.neg_mul]
      · rw [remainder_negative hrest] at h
        have hlt : units % turn < turn := Nat.mod_lt _ turn_pos
        by_cases hbig : 128 * one ≤ units
        · -- The sum is exact, so what is left of the number is a whole number of eighths as well.
          rw [nearest_sum_eq hunits hbig] at h
          have hmod : units % turn = (8 - m) * eighth := by
            rw [Nat.sub_mul, ← h, Nat.mul_comm 8, ← turn_eq]
            omega
          have hpos : m ≠ 0 := by
            rintro rfl
            omega
          obtain ⟨n, heq, hn⟩ := eighths_of_mod (by omega) hmod
          refine ⟨-n, by omega, .inl ?_⟩
          rw [signed_true, heq, Int.natCast_mul, Int.neg_mul]
        · have hsame : units % turn = units := Nat.mod_eq_of_lt (by rw [turn]; omega)
          rw [hsame] at h
          obtain ⟨hm', hhigh, hlow⟩ := near_of_nearest hm (Nat.lt_of_not_le hbig) h
          rw [signed_true]
          rcases hm' with rfl | rfl
          · exact ⟨-2, rfl, .inr ⟨.inr rfl, by omega, by omega⟩⟩
          · exact ⟨-1, rfl, .inr ⟨.inl rfl, by omega, by omega⟩⟩

/-- Of a double it is decided exactly which direction it is. -/
theorem ofUnits?_eq_some_iff_countsAs (hunits : IsMagnitude units) {eighths : Fin 8} :
    ofUnits? negative units = some eighths ↔
      ∃ k : Int, (eighths : Int) = k % 8 ∧ CountsAs (signed negative units / one) k := by
  simp only [countsAs_iff]
  rw [ofUnits?_eq_some_iff]
  constructor
  · exact exists_countsAs hunits eighths.isLt
  · rintro ⟨k, hk, hcounts⟩
    rw [remainder_of_countsAs hcounts]
    congr
    omega

/-! ## Groups -/

/-- The exact number of degrees that a text is read as, if it is finite. -/
def exactDegrees? (text : String) : Option Rat := (Number.readReal? text).bind toRat?

variable {text : String} {degrees : Rat}

theorem exactDegrees?_eq_some_iff :
    exactDegrees? text = some degrees ↔
      ∃ negative units, Number.readReal? text = some (.finite negative units) ∧
        degrees = signed negative units / one := by
  rw [exactDegrees?, Option.bind_eq_some_iff]
  constructor
  · rintro ⟨number, hread, hvalue⟩
    cases number with
    | finite negative units => exact ⟨negative, units, hread, (Option.some.inj hvalue).symm⟩
    | infinite _ | undefined => cases hvalue
  · rintro ⟨negative, units, hread, rfl⟩
    exact ⟨_, hread, rfl⟩

variable {guide : Guide} {here after : Progress} {done : Accepted}

/-- A finite number without underscores is a direction, or it is refused for being none. -/
theorem attempt_dir_of_finite (hmark : '_' ∉ text.toList)
    (hread : Number.readReal? text = some (.finite negative units)) :
    attempt guide here ["dir", text] =
      match ofUnits? negative units with
      | some eighths => .ok ⟨.dir eighths, []⟩ here
      | none => .error .directionNotEighth here := by
  have hdegrees : readDegrees? text = some (.finite negative units) := by
    rw [readDegrees?, if_neg (by simpa using hmark), Option.filter_eq_some_iff]
    exact ⟨hread, rfl⟩
  refine (attempt_cons .dir [text]).trans ((run_performDir here text).trans ?_)
  cases hdirection : ofUnits? negative units with
  | none => simp only [hdegrees, ofNumber?, hdirection]
  | some eighths => simp only [hdegrees, ofNumber?, hdirection]

/-- Nothing else is accepted. -/
theorem finite_of_attempt_dir (h : attempt guide here ["dir", text] = .ok done after) :
    ∃ negative units eighths, Number.readReal? text = some (.finite negative units) ∧
      ofUnits? negative units = some eighths ∧ done.action = .dir eighths := by
  have hrun := h.symm.trans ((attempt_cons .dir [text]).trans (run_performDir here text))
  cases hdegrees : readDegrees? text with
  | none => rw [hdegrees] at hrun; cases hrun
  | some number =>
      simp only [hdegrees] at hrun
      cases hdirection : ofNumber? number with
      | none => rw [hdirection] at hrun; cases hrun
      | some eighths =>
          rw [hdirection] at hrun
          cases hrun
          cases number with
          | infinite _ | undefined => cases hdirection
          | finite negative units =>
              refine ⟨negative, units, eighths, ?_, hdirection, rfl⟩
              rw [readDegrees?] at hdegrees
              split at hdegrees
              · cases hdegrees
              · exact (Option.filter_eq_some_iff.mp hdegrees).1

end Direction

open Direction

/-- A finite number is a direction just if it is a multiple of 45 degrees, of any sign and size, or
so near to -45 or -90 that its sum with a turn is rounded to one; the direction is that of the
multiple. Any other finite number is refused. -/
theorem directions_are_multiples_up_to_rounding (guide : Guide) (here : Progress) {text : String}
    {degrees : Rat} (hmark : '_' ∉ text.toList) (hread : exactDegrees? text = some degrees) :
    (∀ eighths : Fin 8,
        attempt guide here ["dir", text] = .ok ⟨.dir eighths, []⟩ here ↔
          ∃ k : Int, (eighths : Int) = k % 8 ∧ CountsAs degrees k) ∧
      ((∀ k : Int, ¬CountsAs degrees k) →
        ∃ cause, attempt guide here ["dir", text] = .error cause here ∧
          cause.message = "dir value must be in intervals of 45") := by
  obtain ⟨negative, units, hnumber, rfl⟩ := exactDegrees?_eq_some_iff.mp hread
  have hunits := Number.isMagnitude_of_readReal? hnumber
  have hcounts := fun eighths => @ofUnits?_eq_some_iff_countsAs negative units hunits eighths
  rw [attempt_dir_of_finite hmark hnumber]
  cases hdirection : ofUnits? negative units with
  | some found =>
      rw [hdirection] at hcounts
      refine ⟨fun eighths => ?_, fun hnone => ?_⟩
      · rw [← hcounts eighths]
        constructor
        · intro h
          cases h
          rfl
        · intro h
          cases h
          rfl
      · obtain ⟨k, -, hk⟩ := (hcounts found).mp rfl
        exact absurd hk (hnone k)
  | none =>
      rw [hdirection] at hcounts
      refine ⟨fun eighths => ?_, fun _ => ⟨_, rfl, rfl⟩⟩
      rw [← hcounts eighths]
      exact iff_of_false nofun nofun

/-- At a distance of `2^-45` from -90 a double is a direction, and the next one is not. -/
theorem directions_end_near_minus_90 :
    let near := "-89.99999999999997"
    let far := "-89.99999999999996"
    exactDegrees? near = some (-90 + 1 / 2 ^ 45) ∧ CountsAs (-90 + 1 / 2 ^ 45) (-2) ∧
      exactDegrees? far = some (-90 + 3 / 2 ^ 46) ∧ (∀ k : Int, ¬CountsAs (-90 + 3 / 2 ^ 46) k) ∧
      ∀ guide here, attempt guide here ["dir", near] = .ok ⟨.dir 6, []⟩ here ∧
        ∃ cause, attempt guide here ["dir", far] = .error cause here := by
  intro near far
  have hnear : exactDegrees? near = some (-90 + 1 / 2 ^ 45) := by decide +kernel
  have hfar : exactDegrees? far = some (-90 + 3 / 2 ^ 46) := by decide +kernel
  have hcounts : CountsAs (-90 + 1 / 2 ^ 45) (-2) := .inr ⟨.inr rfl, by decide +kernel⟩
  have hnone : ∀ k : Int, ¬CountsAs (-90 + 3 / 2 ^ 46) k := by
    rintro k (heq | ⟨rfl | rfl, hle⟩)
    · exact absurd (den_eq_one heq) (by decide +kernel)
    · exact absurd hle (by decide +kernel)
    · exact absurd hle (by decide +kernel)
  refine ⟨hnear, hcounts, hfar, hnone, fun guide here => ⟨?_, ?_⟩⟩
  · have haccepted := (directions_are_multiples_up_to_rounding guide here (by decide) hnear).1 6
    exact haccepted.mpr ⟨-2, rfl, hcounts⟩
  · obtain ⟨cause, hrefused, -⟩ :=
      (directions_are_multiples_up_to_rounding guide here (by decide) hfar).2 hnone
    exact ⟨cause, hrefused⟩

/-- A number that misses -45 by `2^-47` is no multiple of 45 and yet a direction. -/
theorem hardly_more_than_an_eighth_is_an_eighth :
    let text := "-45.000000000000007"
    let degrees : Rat := -45 - 1 / 2 ^ 47
    '_' ∉ text.toList ∧ exactDegrees? text = some degrees ∧ (∀ k : Int, degrees ≠ 45 * k) ∧
      ∀ guide here, attempt guide here ["dir", text] = .ok ⟨.dir 7, []⟩ here := by
  intro text degrees
  have hmark : '_' ∉ text.toList := by decide
  have hexact : exactDegrees? text = some degrees := by decide +kernel
  have hden : degrees.den ≠ 1 := by decide +kernel
  obtain ⟨units, hread, hdirection⟩ : ∃ units,
      Number.readReal? text = some (.finite true units) ∧ ofUnits? true units = some 7 :=
    ⟨45 * one + Nat.pow 2 1027, by decide +kernel, by decide +kernel⟩
  refine ⟨hmark, hexact, fun k hk => hden (den_eq_one hk), fun guide here => ?_⟩
  rw [attempt_dir_of_finite hmark hread, hdirection]

/-- Every multiple of 45 is a direction, whatever its sign and size: the one that is left of it when
whole turns are taken off. Whatever text is accepted, its remainder is less than a turn, and the
direction is the number of eighths that it is equal to. -/
theorem multiples_of_45_are_directions (guide : Guide) (here : Progress) (text : String) :
    ('_' ∉ text.toList → ∀ k : Int, exactDegrees? text = some (45 * k : Rat) →
        ∃ eighths : Fin 8, (eighths : Int) = k % 8 ∧
          attempt guide here ["dir", text] = .ok ⟨.dir eighths, []⟩ here) ∧
      ∀ done after, attempt guide here ["dir", text] = .ok done after →
        ∃ negative units eighths, Number.readReal? text = some (.finite negative units) ∧
          done.action = .dir eighths ∧ eighths.val * eighth = remainder negative units ∧
          remainder negative units < turn ∧ eighths.val ≤ 7 := by
  constructor
  · intro hmark k hread
    obtain ⟨negative, units, hnumber, hvalue⟩ := exactDegrees?_eq_some_iff.mp hread
    have hsigned : signed negative units = k * eighth := eq_eighths_iff.mp hvalue.symm
    have hdirection : ofUnits? negative units = some (Fin.ofNat 8 (k % 8).toNat) := by
      rw [ofUnits?_eq_some_iff, remainder_of_eq hsigned, Fin.val_ofNat,
        Nat.mod_eq_of_lt (by omega)]
    refine ⟨Fin.ofNat 8 (k % 8).toNat, ?_, ?_⟩
    · rw [Fin.val_ofNat]
      omega
    · rw [attempt_dir_of_finite hmark hnumber, hdirection]
  · intro done after h
    obtain ⟨negative, units, eighths, hnumber, hdirection, haction⟩ := finite_of_attempt_dir h
    have hrest : remainder negative units = eighths.val * eighth :=
      ofUnits?_eq_some_iff.mp hdirection
    have hlt := remainder_lt_of_ofUnits? hdirection
    have hcount : remainder negative units / eighth = eighths.val := by
      rw [hrest, Nat.mul_div_cancel _ eighth_pos]
    have hless : eighths.val < 8 := hcount ▸ div_eighth_lt hlt
    exact ⟨negative, units, eighths, hnumber, haction, hrest.symm, hlt, Nat.le_of_lt_succ hless⟩

/-- A number may be written with an exponent; 30 eighths to the left are two to the right. -/
theorem minus_1350_is_a_direction :
    '_' ∉ "-1.35e3".toList ∧ exactDegrees? "-1.35e3" = some (45 * (-30 : Int) : Rat) ∧
      ∀ guide here, ∃ eighths : Fin 8, (eighths : Int) = -30 % 8 ∧
        attempt guide here ["dir", "-1.35e3"] = .ok ⟨.dir eighths, []⟩ here ∧ eighths.val ≤ 7 := by
  have hmark : '_' ∉ "-1.35e3".toList := by decide
  have hread : exactDegrees? "-1.35e3" = some (45 * (-30 : Int) : Rat) := by decide +kernel
  refine ⟨hmark, hread, fun guide here => ?_⟩
  obtain ⟨hmultiple, hrange⟩ := multiples_of_45_are_directions guide here "-1.35e3"
  obtain ⟨eighths, hindex, haccepted⟩ := hmultiple hmark (-30) hread
  obtain ⟨-, -, found, -, hfound, -, -, hle⟩ := hrange _ _ haccepted
  cases hfound
  exact ⟨eighths, hindex, haccepted, hle⟩

end Walkthrough

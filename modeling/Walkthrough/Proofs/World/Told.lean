import Mathlib.Data.List.Lex
import Walkthrough.Proofs.World.Shape

/-!
# The violation that is told

A table may violate its shape in many places, and only one violation is told. Violations have
ranks: the outermost come first, of these those at the last place in the order of places, and of
these those of a wrong kind. What is told is the first violation of the highest rank, in the order
in which they are found, and nothing else matters to it.

* `PathStep.Precedes` — the order of steps, which is linear; that of paths is its `List.Lex`;
* `Violation.outranks_asymm`, `Violation.outranks_or` — ranks are those of a linear order;
* `Violation.IsTold` — the first violation of the highest rank;
* `Violation.reported?_eq_some_iff` — it is the one that is reported.
-/

namespace Walkthrough

open Walkthrough.Text (Letters)

/-! ## The order of places -/

namespace PathStep

def Precedes (a b : PathStep) : Prop := a.before b = true

theorem precedes_key_iff {a b : Letters} : Precedes (.key a) (.key b) ↔ a < b :=
  decide_eq_true_iff

theorem precedes_index_iff {a b : Nat} : Precedes (.index a) (.index b) ↔ a < b :=
  decide_eq_true_iff

theorem precedes_trans {a b c : PathStep} (hab : a.Precedes b) (hbc : b.Precedes c) :
    a.Precedes c := by
  cases a with
  | key a =>
      cases b with
      | index b => cases hab
      | key b =>
          cases c with
          | index c => cases hbc
          | key c =>
              exact precedes_key_iff.mpr
                (List.lt_trans (precedes_key_iff.mp hab) (precedes_key_iff.mp hbc))
  | index a =>
      cases c with
      | key c => rfl
      | index c =>
          cases b with
          | key b => cases hbc
          | index b =>
              exact precedes_index_iff.mpr
                (Nat.lt_trans (precedes_index_iff.mp hab) (precedes_index_iff.mp hbc))

theorem eq_of_not_precedes {a b : PathStep} (hab : ¬a.Precedes b) (hba : ¬b.Precedes a) :
    a = b := by
  cases a with
  | key a =>
      cases b with
      | key b =>
          rw [precedes_key_iff] at hab hba
          exact congrArg key (List.le_antisymm hba hab)
      | index b => exact absurd rfl hba
  | index a =>
      cases b with
      | key b => exact absurd rfl hab
      | index b =>
          rw [precedes_index_iff] at hab hba
          exact congrArg index (Nat.le_antisymm (Nat.le_of_not_lt hba) (Nat.le_of_not_lt hab))

theorem not_precedes_self (a : PathStep) : ¬a.Precedes a := by
  cases a with
  | key a => exact mt precedes_key_iff.mp (List.lt_irrefl a)
  | index a => exact mt precedes_index_iff.mp (Nat.lt_irrefl a)

instance : IsStrictTotalOrder PathStep Precedes where
  irrefl := not_precedes_self
  trans _ _ _ := precedes_trans
  trichotomous _ _ := eq_of_not_precedes

theorem pathBefore_iff {as bs : List PathStep} :
    pathBefore as bs = true ↔ List.Lex Precedes as bs := by
  induction as generalizing bs with
  | nil => cases bs <;> simp [pathBefore]
  | cons a as ih =>
      cases bs with
      | nil => simp [pathBefore]
      | cons b bs =>
          rw [pathBefore, List.cons_lex_cons_iff, ← ih]
          simp [Precedes]

end PathStep

/-! ## Ranks -/

namespace Violation

open PathStep (Precedes)

variable {u v w : Violation} {vs : List Violation}

theorem outranks_iff :
    v.outranks w = true ↔ v.path.length < w.path.length ∨
      v.path.length = w.path.length ∧ (List.Lex Precedes w.path v.path ∨
        v.path = w.path ∧ v.fault.isKind = true ∧ w.fault.isKind = false) := by
  simp [outranks, PathStep.pathBefore_iff, and_assoc]

theorem outranks_asymm (h : v.outranks w = true) : w.outranks v = false := by
  rw [← Bool.not_eq_true, outranks_iff]
  rcases outranks_iff.mp h with hlength | ⟨hlength, hpath | ⟨hpath, hv, hw⟩⟩
  · omega
  · rintro (hlength' | ⟨-, hpath' | ⟨hpath', -⟩⟩)
    · omega
    · exact asymm_of (List.Lex Precedes) hpath hpath'
    · rw [hpath'] at hpath
      exact irrefl_of (List.Lex Precedes) _ hpath
  · rintro (hlength' | ⟨-, hpath' | ⟨-, hw', -⟩⟩)
    · omega
    · rw [hpath] at hpath'
      exact irrefl_of (List.Lex Precedes) _ hpath'
    · cases hw.symm.trans hw'

/-- Any violation is lower than the higher one of two, or higher than the lower one. -/
theorem outranks_or (h : u.outranks w = true) (v : Violation) :
    u.outranks v = true ∨ v.outranks w = true := by
  simp only [outranks_iff] at h ⊢
  -- The depth of `v` decides; at the depth of `u` it is the place, at its place the kind of fault.
  rcases Nat.lt_trichotomy u.path.length v.path.length with hlt | heq | hgt
  · exact .inl (.inl hlt)
  · rcases h with hlength | ⟨hlength, hpath | ⟨hpath, hu, hw⟩⟩
    · exact .inr (.inl (by omega))
    · rcases IsOrderConnected.conn _ v.path _ hpath with hlow | hhigh
      · exact .inr (.inr ⟨by omega, .inl hlow⟩)
      · exact .inl (.inr ⟨heq, .inl hhigh⟩)
    · rcases trichotomous_of (List.Lex Precedes) v.path u.path with hlow | hsame | hhigh
      · exact .inl (.inr ⟨heq, .inl hlow⟩)
      · cases hv : v.fault.isKind with
        | false => exact .inl (.inr ⟨heq, .inr ⟨hsame.symm, hu, rfl⟩⟩)
        | true => exact .inr (.inr ⟨by omega, .inr ⟨hsame.trans hpath, rfl, hw⟩⟩)
      · exact .inr (.inr ⟨by omega, .inl (hpath ▸ hhigh)⟩)
  · rcases h with hlength | ⟨hlength, -⟩
    · exact .inr (.inl (by omega))
    · exact .inr (.inl (by omega))

theorem outranks_trans (huv : u.outranks v = true) (hvw : v.outranks w = true) :
    u.outranks w = true := by
  rcases outranks_or hvw u with h | h
  · rw [outranks_asymm huv] at h
    cases h
  · exact h

/-! ## The first of the highest rank -/

/-- The first violation of the highest rank: it outranks those before it, and is not outranked by
those after it. -/
def IsTold (vs : List Violation) (v : Violation) : Prop :=
  ∃ before after, vs = before ++ v :: after ∧ (∀ w ∈ before, v.outranks w = true) ∧
    ∀ w ∈ after, w.outranks v = false

theorem IsTold.mem (h : IsTold vs v) : v ∈ vs := by
  obtain ⟨before, after, rfl, -, -⟩ := h
  exact List.mem_append_right _ List.mem_cons_self

/-- What is told is the violation that was found first, or outranks it. -/
theorem IsTold.eq_or_outranks (h : IsTold (u :: vs) v) : v = u ∨ v.outranks u = true := by
  obtain ⟨before, after, hvs, hbefore, -⟩ := h
  cases before with
  | nil => exact .inl (List.cons.inj hvs).1.symm
  | cons first before =>
      rw [(List.cons.inj hvs).1]
      exact .inr (hbefore first List.mem_cons_self)

/-- The same is told if a lower violation is found before all others. -/
theorem IsTold.cons_of_outranks (h : IsTold (u :: vs) v) (hu : u.outranks w = true) :
    IsTold (w :: u :: vs) v := by
  have hv : v.outranks w = true := by
    rcases h.eq_or_outranks with rfl | hv
    · exact hu
    · exact outranks_trans hv hu
  obtain ⟨before, after, hvs, hbefore, hafter⟩ := h
  exact ⟨w :: before, after, congrArg (w :: ·) hvs, List.forall_mem_cons.mpr ⟨hv, hbefore⟩, hafter⟩

/-- The same is told if one that is not higher than the first is found after it. -/
theorem IsTold.insert (h : IsTold (u :: vs) v) (hw : w.outranks u = false) :
    IsTold (u :: w :: vs) v := by
  obtain ⟨before, after, hvs, hbefore, hafter⟩ := h
  cases before with
  | nil =>
      obtain ⟨rfl, rfl⟩ := List.cons.inj hvs
      exact ⟨[], w :: vs, rfl, hbefore, List.forall_mem_cons.mpr ⟨hw, hafter⟩⟩
  | cons first before =>
      obtain ⟨rfl, rfl⟩ := List.cons.inj hvs
      obtain ⟨hu, hbefore⟩ := List.forall_mem_cons.mp hbefore
      have hv : v.outranks w = true := by
        refine (outranks_or hu w).resolve_right ?_
        rw [hw]
        exact Bool.false_ne_true
      refine ⟨u :: w :: before, after, rfl, ?_, hafter⟩
      exact List.forall_mem_cons.mpr ⟨hu, List.forall_mem_cons.mpr ⟨hv, hbefore⟩⟩

theorem isTold_foldl (u : Violation) (vs : List Violation) :
    IsTold (u :: vs) (vs.foldl (fun best w => if w.outranks best then w else best) u) := by
  induction vs generalizing u with
  | nil => exact ⟨[], [], rfl, nofun, nofun⟩
  | cons w vs ih =>
      rw [List.foldl_cons]
      cases hw : w.outranks u with
      | true => exact (ih w).cons_of_outranks hw
      | false => exact (ih u).insert hw

/-- No two violations are told. -/
theorem IsTold.unique (hu : IsTold vs u) (hv : IsTold vs v) : u = v := by
  -- Of two that are told one is found first, or they are the same.
  have hsame {u v : Violation} {after after' middle : List Violation}
      (h : u :: after = middle ++ v :: after') (hafter : ∀ w ∈ after, w.outranks u = false)
      (hmiddle : ∀ w ∈ middle, v.outranks w = true) : u = v := by
    cases middle with
    | nil => exact (List.cons.inj h).1
    | cons first middle =>
        obtain ⟨rfl, rfl⟩ := List.cons.inj h
        have hlater := hafter v (List.mem_append_right _ List.mem_cons_self)
        cases hlater.symm.trans (hmiddle u List.mem_cons_self)
  obtain ⟨before, after, rfl, hbefore, hafter⟩ := hu
  obtain ⟨before', after', hvs, hbefore', hafter'⟩ := hv
  rcases List.append_eq_append_iff.mp hvs with ⟨middle, rfl, hmiddle⟩ | ⟨middle, rfl, hmiddle⟩
  · exact hsame hmiddle hafter fun w hw => hbefore' w (List.mem_append_right _ hw)
  · exact (hsame hmiddle hafter' fun w hw => hbefore w (List.mem_append_right _ hw)).symm

/-- What is reported is the first violation of the highest rank. -/
theorem reported?_eq_some_iff : reported? vs = some v ↔ IsTold vs v := by
  cases vs with
  | nil => simp [reported?, IsTold]
  | cons u vs =>
      rw [reported?, Option.some.injEq]
      constructor
      · rintro rfl
        exact isTold_foldl u vs
      · exact (isTold_foldl u vs).unique

end Violation

end Walkthrough

import Mathlib.Data.List.TakeWhile
import Walkthrough.Text.Blank

/-!
# What is left without the blanks

A text without the characters of a class at its two ends is said here without cutting: what is left
neither starts nor ends with such a character, and there are only such characters around it.

* `Trims` — what is left of a text, with `trims_iff`: there is just one text that is left;
* `trimBy_eq_nil_iff` — when nothing is left.
-/

namespace Walkthrough.Text

/-- `Trims drop raw text`: the text is what is left of `raw` if characters of a class are dropped at
both ends. -/
structure Trims (drop : Char → Bool) (raw text : List Char) : Prop where
  between : ∃ before after, raw = before ++ (text ++ after) ∧
    (∀ c ∈ before, drop c = true) ∧ ∀ c ∈ after, drop c = true
  first : ∀ c ∈ text.head?, drop c = false
  last : ∀ c ∈ text.getLast?, drop c = false

variable {drop : Char → Bool} {raw text : List Char}

theorem dropWhile_eq_self (h : ∀ c ∈ text.head?, drop c = false) : text.dropWhile drop = text := by
  cases text with
  | nil => rfl
  | cons c text => exact List.dropWhile_cons_of_neg (Bool.eq_false_iff.mp (h c rfl))

theorem head?_dropWhile : ∀ c ∈ (text.dropWhile drop).head?, drop c = false := by
  intro c hc
  have hstop := List.head?_dropWhile_not drop text
  rw [Option.mem_def.mp hc] at hstop
  exact hstop

theorem Trims.trimBy_eq (h : Trims drop raw text) : trimBy drop raw = text := by
  obtain ⟨⟨before, after, rfl, hbefore, hafter⟩, hfirst, hlast⟩ := h
  rw [trimBy, List.dropWhile_append_of_pos hbefore]
  cases text with
  | nil =>
      rw [List.nil_append, List.dropWhile_eq_nil_iff.mpr hafter]
      rfl
  | cons c text =>
      have hreverse : ∀ d ∈ after.reverse, drop d = true :=
        fun d hd => hafter d (List.mem_reverse.mp hd)
      rw [← List.head?_reverse] at hlast
      have hfront : (c :: text ++ after).dropWhile drop = c :: text ++ after :=
        dropWhile_eq_self hfirst
      rw [hfront, List.reverse_append, List.dropWhile_append_of_pos hreverse,
        dropWhile_eq_self hlast, List.reverse_reverse]

theorem trims_trimBy (drop : Char → Bool) (raw : List Char) :
    Trims drop raw (trimBy drop raw) := by
  have hfront : raw = raw.takeWhile drop ++ raw.dropWhile drop :=
    List.takeWhile_append_dropWhile.symm
  have hback : raw.dropWhile drop =
      trimBy drop raw ++ ((raw.dropWhile drop).reverse.takeWhile drop).reverse := by
    rw [trimBy, ← List.reverse_append, List.takeWhile_append_dropWhile, List.reverse_reverse]
  refine ⟨⟨_, _, hback ▸ hfront, ?_, ?_⟩, ?_, ?_⟩
  · exact List.all_eq_true.mp List.all_takeWhile
  · exact fun c hc => List.all_eq_true.mp List.all_takeWhile c (List.mem_reverse.mp hc)
  · intro c hc
    have hhead : c ∈ (raw.dropWhile drop).head? := by
      rw [hback, List.head?_append, Option.mem_def.mp hc]
      rfl
    exact head?_dropWhile c hhead
  · rw [trimBy, List.getLast?_reverse]
    exact head?_dropWhile

/-- There is one way to take what is dropped off both ends. -/
theorem trims_iff : Trims drop raw text ↔ trimBy drop raw = text :=
  ⟨Trims.trimBy_eq, fun h => h ▸ trims_trimBy drop raw⟩

theorem trimBy_eq_nil_iff : trimBy drop raw = [] ↔ ∀ c ∈ raw, drop c = true := by
  constructor
  · intro h
    obtain ⟨⟨before, after, rfl, hbefore, hafter⟩, -, -⟩ := trims_iff.mpr h
    exact List.forall_mem_append.mpr ⟨hbefore, hafter⟩
  · intro h
    exact Trims.trimBy_eq ⟨⟨raw, [], by simp, h, nofun⟩, nofun, nofun⟩

end Walkthrough.Text

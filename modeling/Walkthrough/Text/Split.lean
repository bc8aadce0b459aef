/-!
# Splitting at a character

* `split` — the parts of a text between the occurrences of a character.
* `join` — parts with a character between them; `join_split` and `split_join` make the two inverse
  to each other for parts that do not hold the character.
* `cutAt?` — a text cut at the first occurrence of a character.
-/

namespace Walkthrough.Text

/-- The parts of a text between the occurrences of a character: one more than it occurs. -/
def split (separator : Char) : List Char → List (List Char)
  | [] => [[]]
  | c :: cs =>
    if c = separator then [] :: split separator cs
    else
      match split separator cs with
      | [] => [[c]]
      | part :: parts => (c :: part) :: parts

/-- Parts with a character between each and the next. -/
def join (separator : Char) : List (List Char) → List Char
  | [] => []
  | [part] => part
  | part :: parts => part ++ separator :: join separator parts

/-- What stands before and after the first occurrence of a character. -/
def cutAt? (mark : Char) : List Char → Option (List Char × List Char)
  | [] => none
  | c :: cs =>
    if c = mark then some ([], cs)
    else (cutAt? mark cs).map fun (before, after) => (c :: before, after)

theorem split_ne_nil (separator : Char) (cs : List Char) : split separator cs ≠ [] := by
  fun_cases split separator cs <;> simp

theorem join_cons_of_ne_nil (separator : Char) (part : List Char) {parts : List (List Char)}
    (h : parts ≠ []) :
    join separator (part :: parts) = part ++ separator :: join separator parts := by
  cases parts with
  | nil => exact absurd rfl h
  | cons p ps => rfl

/-- Nothing is lost by splitting. -/
theorem join_split (separator : Char) (cs : List Char) :
    join separator (split separator cs) = cs := by
  induction cs with
  | nil => rfl
  | cons c cs ih =>
    have hne := split_ne_nil separator cs
    rw [split]
    split
    · rename_i h
      rw [join_cons_of_ne_nil _ _ hne, ih, h]
      rfl
    · cases hs : split separator cs with
      | nil => exact absurd hs hne
      | cons part parts =>
        rw [hs] at ih
        cases parts with
        | nil => simp_all [join]
        | cons p ps => simp_all [join]

/-- A part holds no separator. -/
theorem not_mem_of_mem_split {separator : Char} {cs part : List Char}
    (h : part ∈ split separator cs) : separator ∉ part := by
  induction cs generalizing part with
  | nil => simp_all [split]
  | cons c cs ih =>
    rw [split] at h
    split at h
    · grind
    · split at h <;> grind

/-- Parts without separators are found again. -/
theorem split_join {separator : Char} {parts : List (List Char)} (hne : parts ≠ [])
    (h : ∀ part ∈ parts, separator ∉ part) : split separator (join separator parts) = parts := by
  have single (part rest : List Char) (hp : separator ∉ part) :
      split separator (part ++ separator :: rest) = part :: split separator rest := by
    induction part with
    | nil => simp [split]
    | cons c cs ih => simp_all [split, Ne.symm]
  have last (part : List Char) (hp : separator ∉ part) : split separator part = [part] := by
    induction part with
    | nil => rfl
    | cons c cs ih => simp_all [split, Ne.symm]
  induction parts with
  | nil => exact absurd rfl hne
  | cons part parts ih =>
    cases parts with
    | nil => exact last part (h part (by simp))
    | cons p ps =>
      rw [join_cons_of_ne_nil _ _ (by simp), single _ _ (h part (by simp)),
        ih (by simp) fun q hq => h q (by simp_all)]

/-- Texts that are made of their characters have these characters. -/
theorem map_toList_map_ofList (parts : List (List Char)) :
    (parts.map String.ofList).map String.toList = parts := by
  rw [List.map_map]
  exact (List.map_congr_left fun part _ => String.toList_ofList).trans parts.map_id

/-- A cut loses only the character itself. -/
theorem eq_of_cutAt? {mark : Char} {cs before after : List Char}
    (h : cutAt? mark cs = some (before, after)) : cs = before ++ mark :: after ∧ mark ∉ before := by
  induction cs generalizing before with
  | nil => simp [cutAt?] at h
  | cons c cs ih =>
    rw [cutAt?] at h
    split at h
    · grind
    · obtain ⟨⟨before', after'⟩, hc, he⟩ := Option.map_eq_some_iff.1 h
      simp only [Prod.mk.injEq] at he
      have := ih (he.2 ▸ hc)
      grind

theorem cutAt?_eq_none_iff {mark : Char} {cs : List Char} :
    cutAt? mark cs = none ↔ mark ∉ cs := by
  induction cs with
  | nil => simp [cutAt?]
  | cons c cs ih =>
    rw [cutAt?]
    split
    · simp_all
    · rw [Option.map_eq_none_iff, ih]
      grind

end Walkthrough.Text

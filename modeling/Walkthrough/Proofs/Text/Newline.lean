import Walkthrough.Text.Lines
import Walkthrough.Text.Split

/-!
# Any line end will do

A text may end its lines in three ways, and mix them. Its lines are those of the text in which all
line ends are written as line feeds, and this text has one character to split at: so whoever unifies
the line ends of a text before it is read changes nothing about its lines.

* `replace` — a text with one mark put in the place of another;
* `unifyNewlines_eq_replace` — unifying line ends is replacing the pair and then what is left;
* `splitLines_eq_split` — the lines of a text are the parts of the unified one;
* `length_splitLines` — how many there are.
-/

namespace Walkthrough.Text

/-! ## Replacing -/

/-- The text with `other` in the place of `mark`, wherever that stands, from left to right. -/
def replace (mark other : List Char) : List Char → List Char
  | [] => []
  | c :: cs =>
    if mark.isPrefixOf (c :: cs) then other ++ replace mark other (cs.drop (mark.length - 1))
    else c :: replace mark other cs
termination_by cs => cs.length

/-- The document with every pair of a carriage return and a line feed, and then every other carriage
return, replaced by a line feed. -/
def withLineFeeds (document : String) : String :=
  String.ofList (replace ['\r'] ['\n'] (replace ['\r', '\n'] ['\n'] document.toList))

theorem replace_mark_append {mark : List Char} (other rest : List Char) (h : mark ≠ []) :
    replace mark other (mark ++ rest) = other ++ replace mark other rest := by
  obtain ⟨c, tail, rfl⟩ := List.exists_cons_of_ne_nil h
  have hmark : (c :: tail).isPrefixOf (c :: (tail ++ rest)) = true :=
    List.isPrefixOf_iff_prefix.mpr (List.prefix_append (c :: tail) rest)
  rw [List.cons_append, replace, if_pos hmark, List.length_cons, Nat.add_sub_cancel,
    List.drop_left]

theorem replace_cons {mark : List Char} (other : List Char) {c : Char} {cs : List Char}
    (h : ¬mark <+: c :: cs) : replace mark other (c :: cs) = c :: replace mark other cs := by
  rw [replace, if_neg (mt List.isPrefixOf_iff_prefix.mp h)]

/-! ## Unifying line ends -/

/-- Unifying line ends is replacing: first the pair, so that it counts once, then the carriage
returns that are left. -/
theorem unifyNewlines_eq_replace (cs : List Char) :
    unifyNewlines cs = replace ['\r'] ['\n'] (replace ['\r', '\n'] ['\n'] cs) := by
  fun_induction unifyNewlines cs with
  | case1 => simp [replace]
  | case2 cs ih =>
      have hpair := replace_mark_append ['\n'] cs (List.cons_ne_nil '\r' ['\n'])
      rw [List.cons_append, List.singleton_append] at hpair
      rw [hpair, List.singleton_append, replace_cons ['\n'] (by simp), ih]
  | case3 cs hpair ih =>
      have hnone : ¬['\r', '\n'] <+: '\r' :: cs := by
        rintro ⟨rest, hrest⟩
        exact hpair rest (List.cons.inj hrest).2.symm
      have hreturn := replace_mark_append ['\n'] (replace ['\r', '\n'] ['\n'] cs)
        (List.cons_ne_nil '\r' [])
      rw [List.singleton_append, List.singleton_append] at hreturn
      rw [replace_cons ['\n'] hnone, hreturn, ih]
  | case4 c cs hpair hreturn ih =>
      have hc : c ≠ '\r' := fun he => hreturn he
      rw [replace_cons ['\n'] (by simp [hc.symm]),
        replace_cons ['\n'] (by simp [hc.symm]), ih]

theorem return_not_mem_unifyNewlines (cs : List Char) : '\r' ∉ unifyNewlines cs := by
  fun_induction unifyNewlines cs with
  | case1 => exact List.not_mem_nil
  | case2 cs ih => simp [ih]
  | case3 cs hpair ih => simp [ih]
  | case4 c cs hpair hreturn ih =>
      have hc : '\r' ≠ c := fun he => hreturn he.symm
      simp [ih, hc]

/-- Where there is no carriage return, there is nothing to unify. -/
theorem unifyNewlines_of_not_mem {cs : List Char} (h : '\r' ∉ cs) : unifyNewlines cs = cs := by
  fun_induction unifyNewlines cs with
  | case1 => rfl
  | case2 cs ih => exact absurd List.mem_cons_self h
  | case3 cs hpair ih => exact absurd List.mem_cons_self h
  | case4 c cs hpair hreturn ih => rw [ih fun hmem => h (List.mem_cons_of_mem c hmem)]

/-- How often a line feed stands right behind a carriage return. -/
def pairs (cs : List Char) : Nat := (cs.zip cs.tail).count ('\r', '\n')

theorem pairs_cons (c : Char) (cs : List Char) :
    pairs (c :: cs) = pairs cs + if c = '\r' ∧ cs.head? = some '\n' then 1 else 0 := by
  cases cs with
  | nil => simp [pairs]
  | cons d cs => simp [pairs, List.count_cons]

/-- Every character that ends lines becomes a line feed, but those of a pair become one. -/
theorem count_unifyNewlines (cs : List Char) :
    (unifyNewlines cs).count '\n' + pairs cs = cs.count '\r' + cs.count '\n' := by
  fun_induction unifyNewlines cs with
  | case1 => rfl
  | case2 cs ih =>
      simp [pairs_cons]
      omega
  | case3 cs hpair ih =>
      have hhead : cs.head? ≠ some '\n' := by
        intro hhead
        obtain ⟨rest, rfl⟩ := List.head?_eq_some_iff.mp hhead
        exact hpair rest rfl
      simp [pairs_cons, hhead]
      omega
  | case4 c cs hpair hreturn ih =>
      have hc : c ≠ '\r' := fun he => hreturn he
      simp [pairs_cons, List.count_cons, hc]
      omega

/-! ## Lines -/

/-- The lines of a text are what stands between the line feeds of the unified text. -/
theorem splitLines_eq_split (cs : List Char) : splitLines cs = split '\n' (unifyNewlines cs) := by
  fun_induction splitLines cs with
  | case1 => rfl
  | case2 cs ih => rw [unifyNewlines, split, if_pos rfl, ih]
  | case3 cs hpair ih =>
      rw [unifyNewlines, split, if_pos rfl, ih]
      exact hpair
  | case4 cs ih =>
      rw [unifyNewlines, split, if_pos rfl, ih]
      all_goals simp
  | case5 c cs hpair hr hn hnil ih => exact absurd hnil (splitLines_ne_nil cs)
  | case6 c cs hpair hr hn line lines hlines ih =>
      rw [unifyNewlines, split, if_neg hn, ← ih, hlines]
      all_goals assumption

/-- Splitting at a character makes one part more than there are such characters. -/
theorem length_split (separator : Char) (cs : List Char) :
    (split separator cs).length = cs.count separator + 1 := by
  induction cs with
  | nil => rfl
  | cons c cs ih =>
      rw [split, List.count_cons]
      by_cases hc : c = separator
      · rw [if_pos hc, if_pos (beq_iff_eq.mpr hc), List.length_cons, ih]
      · rw [if_neg hc, if_neg (mt beq_iff_eq.mp hc), Nat.add_zero, ← ih]
        cases hparts : split separator cs with
        | nil => exact absurd hparts (split_ne_nil separator cs)
        | cons part parts => rfl

theorem intercalate_eq_join (separator : Char) (parts : List (List Char)) :
    [separator].intercalate parts = join separator parts := by
  fun_induction join separator parts with
  | case1 => rfl
  | case2 part => exact List.append_nil part
  | case3 part parts hne ih =>
      rw [List.intercalate_cons_of_ne_nil hne, ih, List.append_assoc, List.singleton_append]

/-- What is in a part is in the whole. -/
theorem mem_join_of_mem (separator : Char) {c : Char} {part : List Char} {parts : List (List Char)}
    (hpart : part ∈ parts) (hc : c ∈ part) : c ∈ join separator parts := by
  induction parts with
  | nil => exact absurd hpart List.not_mem_nil
  | cons first parts ih =>
      cases parts with
      | nil => exact List.mem_singleton.mp hpart ▸ hc
      | cons second parts =>
          rw [join_cons_of_ne_nil _ _ (List.cons_ne_nil second parts)]
          rcases List.mem_cons.mp hpart with rfl | hrest
          · exact List.mem_append_left _ hc
          · exact List.mem_append_right _ (List.mem_cons_of_mem _ (ih hrest))

/-- A line holds no character that ends lines. -/
theorem not_mem_of_mem_splitLines {cs line : List Char} (h : line ∈ splitLines cs) :
    '\r' ∉ line ∧ '\n' ∉ line := by
  rw [splitLines_eq_split] at h
  refine ⟨fun hreturn => ?_, not_mem_of_mem_split h⟩
  have hmem := mem_join_of_mem '\n' h hreturn
  rw [join_split] at hmem
  exact return_not_mem_unifyNewlines cs hmem

/-- There is one line more than there are line ends. -/
theorem length_splitLines (cs : List Char) :
    (splitLines cs).length + pairs cs = cs.count '\r' + cs.count '\n' + 1 := by
  rw [splitLines_eq_split, length_split, ← count_unifyNewlines]
  omega

/-- A carriage return, a pair and a line feed end three lines. -/
example : splitLines ['a', '\r', '\r', '\n', '\n', 'b'] = [['a'], [], [], ['b']] := by decide

theorem splitLines_unifyNewlines (cs : List Char) :
    splitLines (unifyNewlines cs) = splitLines cs := by
  rw [splitLines_eq_split, splitLines_eq_split,
    unifyNewlines_of_not_mem (return_not_mem_unifyNewlines cs)]

/-! ## Documents -/

theorem withLineFeeds_eq (document : String) :
    withLineFeeds document = String.ofList (unifyNewlines document.toList) := by
  rw [withLineFeeds, unifyNewlines_eq_replace]

/-- A document with line feeds has the same lines. -/
theorem lines_withLineFeeds (document : String) :
    lines (withLineFeeds document) = lines document := by
  rw [lines, withLineFeeds_eq, String.toList_ofList, splitLines_unifyNewlines, lines]

theorem toList_of_mem_lines {document line : String} (h : line ∈ lines document) :
    line.toList ∈ splitLines document.toList := by
  obtain ⟨cs, hcs, rfl⟩ := List.mem_map.mp h
  rw [String.toList_ofList]
  exact hcs

/-- Lines that are joined by line feeds make the document with line feeds. -/
theorem intercalate_lines (document : String) :
    "\n".intercalate (lines document) = withLineFeeds document := by
  have hlines : (lines document).map String.toList = splitLines document.toList :=
    map_toList_map_ofList _
  apply String.toList_injective
  calc ("\n".intercalate (lines document)).toList
      = ['\n'].intercalate (splitLines document.toList) := by
        rw [String.toList_intercalate, hlines]
        rfl
    _ = join '\n' (split '\n' (unifyNewlines document.toList)) := by
        rw [intercalate_eq_join, splitLines_eq_split]
    _ = unifyNewlines document.toList := join_split '\n' _
    _ = (withLineFeeds document).toList := by rw [withLineFeeds_eq, String.toList_ofList]

end Walkthrough.Text

import Walkthrough.Text.Lines

/-!
# Lines of joined texts

Where two texts are joined, what ends the one and what starts the other may become a single line
end. So the lines of the whole are not just the lines of the two, but those that are not empty are:
they are what stands between the characters that end lines, however these characters are paired.

* `IsNewline` — the three ways to end a line;
* `filled` — the lines that are not empty, with `filled_splitLines`, which says where they are;
* `filled_splitLines_append`, `filledLines_intercalate` — these lines of joined texts.
-/

namespace Walkthrough.Text

/-- The three ways to end a line. -/
def IsNewline (newline : String) : Prop := newline = "\n" ∨ newline = "\r" ∨ newline = "\r\n"

def endsLine (c : Char) : Bool := c == '\r' || c == '\n'

/-- The lines that are not empty. -/
def filled (lines : List (List Char)) : List (List Char) :=
  lines.filter fun line => !line.isEmpty

theorem filled_cons_nil (lines : List (List Char)) : filled ([] :: lines) = filled lines := rfl

theorem filled_append (lines more : List (List Char)) :
    filled (lines ++ more) = filled lines ++ filled more := List.filter_append _ _

theorem splitOnP_of_endsLine {c : Char} (h : endsLine c = true) (cs : List Char) :
    (c :: cs).splitOnP endsLine = [] :: cs.splitOnP endsLine := by
  rw [List.splitOnP_cons_eq_if_modifyHead, if_pos h]

/-- Two rows start with the same line, and after it they hold the same lines but for empty ones. The
first line is kept apart, since a character may still come to stand before it. -/
def Agree (lines others : List (List Char)) : Prop :=
  ∃ line rest rest', lines = line :: rest ∧ others = line :: rest' ∧ filled rest = filled rest'

theorem Agree.filled_eq {lines others : List (List Char)} (h : Agree lines others) :
    filled lines = filled others := by
  obtain ⟨line, rest, rest', rfl, rfl, hrest⟩ := h
  rw [filled, filled, List.filter_cons, List.filter_cons, ← filled, ← filled, hrest]

/-- Where every character that ends lines is cut at, only empty lines come about besides. -/
theorem agree_splitLines (cs : List Char) : Agree (splitLines cs) (cs.splitOnP endsLine) := by
  fun_induction splitLines cs with
  | case1 => exact ⟨[], [], [], rfl, rfl, rfl⟩
  | case2 cs ih =>
      -- The pair is cut twice, and there is nothing between its two characters.
      rw [splitOnP_of_endsLine rfl, splitOnP_of_endsLine rfl]
      exact ⟨[], _, _, rfl, rfl, ih.filled_eq⟩
  | case3 cs hpair ih =>
      rw [splitOnP_of_endsLine rfl]
      exact ⟨[], _, _, rfl, rfl, ih.filled_eq⟩
  | case4 cs ih =>
      rw [splitOnP_of_endsLine rfl]
      exact ⟨[], _, _, rfl, rfl, ih.filled_eq⟩
  | case5 c cs hpair hr hn hnil ih => exact absurd hnil (splitLines_ne_nil cs)
  | case6 c cs hpair hr hn line lines hlines ih =>
      obtain ⟨first, rest, rest', hfirst, hothers, hrest⟩ := ih
      obtain ⟨rfl, rfl⟩ := List.cons.inj (hlines.symm.trans hfirst)
      have hplain : ¬endsLine c = true := by
        intro h
        rcases Bool.or_eq_true_iff.mp h with hc | hc
        · exact hr (beq_iff_eq.mp hc)
        · exact hn (beq_iff_eq.mp hc)
      rw [List.splitOnP_cons_eq_if_modifyHead, if_neg hplain, hothers]
      exact ⟨c :: line, lines, rest', rfl, rfl, hrest⟩

theorem filled_splitLines (cs : List Char) :
    filled (splitLines cs) = filled (cs.splitOnP endsLine) := (agree_splitLines cs).filled_eq

/-- The lines of joined texts that are not empty are those of the texts, whatever the line end that
they are joined by becomes one with. -/
theorem filled_splitLines_append {newline : String} (h : IsNewline newline) (cs ds : List Char) :
    filled (splitLines (cs ++ newline.toList ++ ds)) =
      filled (splitLines cs) ++ filled (splitLines ds) := by
  rw [List.append_assoc, filled_splitLines, filled_splitLines, filled_splitLines]
  rcases h with rfl | rfl | rfl
  · show filled ((cs ++ '\n' :: ds).splitOnP endsLine) = _
    rw [List.splitOnP_append_cons cs ds rfl, filled_append]
  · show filled ((cs ++ '\r' :: ds).splitOnP endsLine) = _
    rw [List.splitOnP_append_cons cs ds rfl, filled_append]
  · show filled ((cs ++ '\r' :: '\n' :: ds).splitOnP endsLine) = _
    rw [List.splitOnP_append_cons cs _ rfl, filled_append, splitOnP_of_endsLine rfl,
      filled_cons_nil]

/-- The lines of a document that are not empty. -/
def filledLines (document : String) : List String :=
  (filled (splitLines document.toList)).map String.ofList

theorem filledLines_eq (document : String) :
    filledLines document = (lines document).filter fun line => !line.toList.isEmpty := by
  have hempty : (fun line : String => !line.toList.isEmpty) ∘ String.ofList =
      fun line => !line.isEmpty := by
    funext line
    rw [Function.comp_apply, String.toList_ofList]
  rw [lines, List.filter_map, hempty]
  rfl

theorem filledLines_intercalate {newline : String} (h : IsNewline newline)
    (documents : List String) :
    filledLines (newline.intercalate documents) = documents.flatMap filledLines := by
  induction documents with
  | nil => rfl
  | cons document documents ih =>
      cases documents with
      | nil => rw [String.intercalate_singleton, List.flatMap_singleton]
      | cons next documents =>
          rw [String.intercalate_cons_of_ne_nil (List.cons_ne_nil _ _), filledLines,
            String.toList_append, String.toList_append, filled_splitLines_append h,
            List.map_append, List.flatMap_cons, ← ih]
          rfl

end Walkthrough.Text

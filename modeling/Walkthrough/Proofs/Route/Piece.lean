import Walkthrough.Route.Token

/-!
# What a line is cut into

The pieces of a line are said here without cutting: where a piece may stand, and where a comment
takes the rest. No character of a line gets lost, and there is only one way to cut it.

* `Piece.IsComment` — a comment: `#` after blanks;
* `Piece.Fits` — a piece may stand where the given text comes after it;
* `Piece.next?_eq_some_iff`, `Piece.next?_eq_none_iff` — the first piece is the one that fits, and
  only at the end and at a comment there is none;
* `Piece.Cuts` — a text is pieces and a comment, with `Cuts.unique`;
* `line_is_cut_in_one_way` — every line is cut, in just one way, into the pieces that carry its
  tokens.
-/

namespace Walkthrough

open Walkthrough.Text

/-- What stands before a mark that does not occur in it is what is cut off at the mark. -/
theorem cutAt?_append {mark : Char} {before : List Char} (after : List Char)
    (h : mark ∉ before) : cutAt? mark (before ++ mark :: after) = some (before, after) := by
  induction before with
  | nil => rw [List.nil_append, cutAt?, if_pos rfl]
  | cons c before ih =>
      obtain ⟨hc, hrest⟩ := not_or.mp (mt List.mem_cons.mpr h)
      rw [List.cons_append, cutAt?, if_neg (Ne.symm hc), ih hrest]
      rfl

namespace Piece

/-! ## Comments -/

/-- A comment: `#` after blanks, and whatever comes then. -/
def IsComment (cs : List Char) : Prop :=
  ∃ blanks rest, (∀ c ∈ blanks, isBlank c = true) ∧ cs = blanks ++ '#' :: rest

theorem not_isComment_nil : ¬IsComment [] := by
  rintro ⟨blanks, rest, -, h⟩
  exact List.append_ne_nil_of_right_ne_nil blanks (List.cons_ne_nil '#' rest) h.symm

theorem isComment_cons {c : Char} {cs : List Char} :
    IsComment (c :: cs) ↔ c = '#' ∨ (isBlank c = true ∧ IsComment cs) := by
  constructor
  · rintro ⟨blanks, rest, hblanks, h⟩
    cases blanks with
    | nil => exact .inl (List.cons.inj h).1
    | cons b blanks =>
        obtain ⟨rfl, rfl⟩ := List.cons.inj h
        have htail : ∀ c ∈ blanks, isBlank c = true :=
          fun c hc => hblanks c (List.mem_cons_of_mem _ hc)
        exact .inr ⟨hblanks _ List.mem_cons_self, blanks, rest, htail, rfl⟩
  · rintro (rfl | ⟨hc, blanks, rest, hblanks, rfl⟩)
    · exact ⟨[], cs, nofun, rfl⟩
    · exact ⟨c :: blanks, rest, List.forall_mem_cons.mpr ⟨hc, hblanks⟩, rfl⟩

theorem opensComment_iff {cs : List Char} : opensComment cs = true ↔ IsComment cs := by
  induction cs with
  | nil => exact iff_of_false nofun not_isComment_nil
  | cons c cs ih =>
      rw [isComment_cons]
      by_cases hc : isBlank c = true
      · have hne : c ≠ '#' := by
          rintro rfl
          rw [isBlank_hash] at hc
          cases hc
        have hopen : opensComment (c :: cs) = opensComment cs := by
          rw [opensComment, List.dropWhile_cons_of_pos hc]
          rfl
        rw [hopen, ih]
        exact ⟨fun h => .inr ⟨hc, h⟩, fun h => (h.resolve_left hne).2⟩
      · have hopen : opensComment (c :: cs) = (some c == some '#') := by
          rw [opensComment, List.dropWhile_cons_of_neg hc]
          rfl
        rw [hopen, beq_iff_eq, Option.some_inj]
        exact ⟨.inl, fun h => h.resolve_right fun hblank => hc hblank.1⟩

/-- Neither a group nor a lone brace is taken for a comment. -/
theorem not_isComment_brace (cs : List Char) : ¬IsComment ('{' :: cs) := by
  rw [isComment_cons]
  rintro (h | ⟨h, -⟩)
  · exact absurd h (by decide)
  · exact absurd h (by decide)

/-- A text without `#` that a brace or the end comes after is not taken for a comment. -/
theorem not_isComment_append {text rest : List Char} (htext : '#' ∉ text)
    (hrest : ¬IsComment rest) : ¬IsComment (text ++ rest) := by
  induction text with
  | nil => exact hrest
  | cons c text ih =>
      obtain ⟨hc, htext⟩ := not_or.mp (mt List.mem_cons.mpr htext)
      rw [List.cons_append, isComment_cons]
      rintro (h | ⟨-, h⟩)
      · exact hc h.symm
      · exact ih htext h

/-! ## Where a piece stands -/

/-- Whether a piece may stand where `rest` comes after it. -/
def Fits : Piece → List Char → Prop
  -- A literal is a run without these two characters that goes on as far as it can.
  | literal text, rest =>
    text ≠ [] ∧ ('{' ∉ text ∧ '#' ∉ text) ∧ ∀ c ∈ rest.head?, c = '{' ∨ c = '#'
  -- A group is closed by the first brace that leaves something inside.
  | group interior, _ => ∃ first others, interior = first :: others ∧ '}' ∉ others
  -- A brace is alone if there is none that could close its group.
  | loneBrace, rest => '}' ∉ rest.tail

theorem isPlain_iff {c : Char} : isPlain c = true ↔ c ≠ '{' ∧ c ≠ '#' := by
  simp [isPlain]

theorem not_isPlain_iff {c : Char} : isPlain c = false ↔ c = '{' ∨ c = '#' := by
  by_cases hbrace : c = '{' <;> by_cases hhash : c = '#' <;> simp [isPlain, hbrace, hhash]

theorem forall_isPlain_iff {text : List Char} :
    (∀ c ∈ text, isPlain c = true) ↔ '{' ∉ text ∧ '#' ∉ text := by
  simp only [isPlain_iff]
  constructor
  · exact fun h => ⟨fun hmem => (h _ hmem).1 rfl, fun hmem => (h _ hmem).2 rfl⟩
  · rintro ⟨hbrace, hhash⟩ c hc
    exact ⟨fun he => hbrace (he ▸ hc), fun he => hhash (he ▸ hc)⟩

theorem interior?_eq_some_iff {cs interior after : List Char} :
    interior? cs = some (interior, after) ↔
      cs = interior ++ '}' :: after ∧
        ∃ first others, interior = first :: others ∧ '}' ∉ others := by
  constructor
  · intro h
    refine ⟨eq_of_interior? h, ?_⟩
    cases cs with
    | nil => cases h
    | cons c cs =>
        obtain ⟨⟨before, after'⟩, hcut, he⟩ := Option.map_eq_some_iff.mp h
        obtain ⟨rfl, rfl⟩ := Prod.mk.inj he
        exact ⟨c, before, rfl, (eq_of_cutAt? hcut).2⟩
  · rintro ⟨rfl, first, others, rfl, hothers⟩
    rw [List.cons_append, interior?, cutAt?_append after hothers]
    rfl

theorem interior?_eq_none_iff {cs : List Char} : interior? cs = none ↔ '}' ∉ cs.tail := by
  cases cs with
  | nil => simp [interior?]
  | cons c cs => rw [interior?, Option.map_eq_none_iff, cutAt?_eq_none_iff, List.tail_cons]

/-! ## The next piece -/

theorem next?_of_isComment {cs : List Char} (h : IsComment cs) : next? cs = none := by
  rw [next?.eq_def, if_pos (opensComment_iff.mpr h)]

theorem next?_nil : next? [] = none := rfl

theorem next?_brace (cs : List Char) :
    next? ('{' :: cs) =
      match interior? cs with
      | some (interior, after) => some (.group interior, after)
      | none => some (.loneBrace, cs) := by
  rw [next?.eq_def, if_neg (mt opensComment_iff.mp (not_isComment_brace cs))]
  rfl

theorem next?_plain {c : Char} {cs : List Char} (hc : c ≠ '{') (h : ¬IsComment (c :: cs)) :
    next? (c :: cs) = some (.literal (c :: cs.takeWhile isPlain), cs.dropWhile isPlain) := by
  rw [next?.eq_def, if_neg (mt opensComment_iff.mp h)]
  split
  · rename_i heq
    cases heq
  · rename_i heq
    exact absurd (List.cons.inj heq).1 hc
  · rename_i heq
    cases heq
    rfl

/-- The next piece stands where no comment starts, and fits there. -/
theorem fits_of_next? {cs rest : List Char} {piece : Piece} (h : next? cs = some (piece, rest)) :
    ¬IsComment cs ∧ piece.Fits rest := by
  have hcomment : ¬IsComment cs := by
    intro hc
    rw [next?_of_isComment hc] at h
    cases h
  refine ⟨hcomment, ?_⟩
  cases cs with
  | nil => cases h
  | cons c cs =>
      by_cases hc : c = '{'
      · subst hc
        rw [next?_brace] at h
        cases hinterior : interior? cs with
        | none =>
            rw [hinterior] at h
            cases h
            exact interior?_eq_none_iff.mp hinterior
        | some cut =>
            rw [hinterior] at h
            cases h
            exact (interior?_eq_some_iff.mp hinterior).2
      · rw [next?_plain hc hcomment] at h
        cases h
        have hplain : isPlain c = true :=
          isPlain_iff.mpr ⟨hc, fun he => hcomment (isComment_cons.mpr (.inl he))⟩
        have hrun : ∀ d ∈ c :: cs.takeWhile isPlain, isPlain d = true :=
          List.forall_mem_cons.mpr ⟨hplain, List.all_eq_true.mp List.all_takeWhile⟩
        refine ⟨List.cons_ne_nil _ _, forall_isPlain_iff.mp hrun, ?_⟩
        intro d hd
        have hstop := List.head?_dropWhile_not isPlain cs
        rw [Option.mem_def.mp hd] at hstop
        exact not_isPlain_iff.mp hstop

/-- A piece that fits where it stands is the next one. -/
theorem next?_of_fits {rest : List Char} {piece : Piece}
    (hcomment : ¬IsComment (piece.written ++ rest)) (hfits : piece.Fits rest) :
    next? (piece.written ++ rest) = some (piece, rest) := by
  cases piece with
  | group interior =>
      have hinterior : interior? (interior ++ '}' :: rest) = some (interior, rest) :=
        interior?_eq_some_iff.mpr ⟨rfl, hfits⟩
      have hwritten : written (group interior) ++ rest = '{' :: (interior ++ '}' :: rest) := by
        simp [written]
      rw [hwritten, next?_brace, hinterior]
  | loneBrace =>
      rw [written, List.singleton_append, next?_brace, interior?_eq_none_iff.mpr hfits]
  | literal text =>
      obtain ⟨hne, hplain, hrest⟩ := hfits
      obtain ⟨c, text, rfl⟩ := List.exists_cons_of_ne_nil hne
      obtain ⟨hc, htext⟩ := List.forall_mem_cons.mp (forall_isPlain_iff.mpr hplain)
      have hstop : rest.takeWhile isPlain = [] ∧ rest.dropWhile isPlain = rest := by
        cases rest with
        | nil => exact ⟨rfl, rfl⟩
        | cons d rest =>
            have hd : ¬isPlain d = true :=
              Bool.not_eq_true _ ▸ not_isPlain_iff.mpr (hrest d rfl)
            exact ⟨List.takeWhile_cons_of_neg hd, List.dropWhile_cons_of_neg hd⟩
      rw [written, List.cons_append] at hcomment ⊢
      rw [next?_plain (isPlain_iff.mp hc).1 hcomment, List.takeWhile_append_of_pos htext,
        List.dropWhile_append_of_pos htext, hstop.1, hstop.2, List.append_nil]

/-- The next piece of a text is the one that fits at its start. -/
theorem next?_eq_some_iff {cs rest : List Char} {piece : Piece} :
    next? cs = some (piece, rest) ↔
      cs = piece.written ++ rest ∧ ¬IsComment cs ∧ piece.Fits rest := by
  constructor
  · exact fun h => ⟨eq_of_next? h, fits_of_next? h⟩
  · rintro ⟨rfl, hcomment, hfits⟩
    exact next?_of_fits hcomment hfits

/-- At the end of a text and at a comment, and nowhere else, there is no next piece. -/
theorem next?_eq_none_iff {cs : List Char} : next? cs = none ↔ cs = [] ∨ IsComment cs := by
  constructor
  · intro h
    by_cases hcomment : IsComment cs
    · exact .inr hcomment
    · cases cs with
      | nil => exact .inl rfl
      | cons c cs =>
          by_cases hc : c = '{'
          · subst hc
            rw [next?_brace] at h
            cases hinterior : interior? cs with
            | none => rw [hinterior] at h; cases h
            | some cut => rw [hinterior] at h; cases h
          · rw [next?_plain hc hcomment] at h
            cases h
  · rintro (rfl | hcomment)
    · exact next?_nil
    · exact next?_of_isComment hcomment

/-! ## Whole lines -/

/-- `Cuts text pieces comment`: the text is the pieces, one after the other, and the comment. Each
piece fits where it stands, and a comment is not cut into pieces. -/
inductive Cuts : List Char → List Piece → List Char → Prop
  | ends {comment : List Char} : comment = [] ∨ IsComment comment → Cuts comment [] comment
  | piece {piece : Piece} {pieces : List Piece} {rest comment : List Char} :
      ¬IsComment (piece.written ++ rest) → piece.Fits rest → Cuts rest pieces comment →
      Cuts (piece.written ++ rest) (piece :: pieces) comment

/-- No character gets lost. -/
theorem Cuts.text_eq {text comment : List Char} {pieces : List Piece}
    (h : Cuts text pieces comment) : text = pieces.flatMap written ++ comment := by
  induction h with
  | ends _ => rfl
  | piece _ _ _ ih => rw [List.flatMap_cons, List.append_assoc, ← ih]

/-- Where a piece stands, the rest of the text is cut as well. -/
theorem Cuts.of_append {text comment : List Char} {before pieces : List Piece}
    (h : Cuts text (before ++ pieces) comment) :
    Cuts (pieces.flatMap written ++ comment) pieces comment := by
  induction before generalizing text with
  | nil => exact h.text_eq ▸ h
  | cons first before ih =>
      cases h with
      | piece _ _ hrest => exact ih hrest

/-- A piece that starts with a brace is a lone brace exactly if no brace could close its group. -/
theorem Fits.eq_loneBrace_iff {piece : Piece} {rest : List Char} (hfits : piece.Fits rest)
    (hbrace : piece.written.head? = some '{') :
    piece = .loneBrace ↔ '}' ∉ (piece.written ++ rest).drop 2 := by
  cases piece with
  | loneBrace => exact iff_of_true rfl (by simpa [written, Fits] using hfits)
  | group interior =>
      obtain ⟨first, others, rfl, -⟩ := hfits
      have hcloses : '}' ∈ (written (group (first :: others)) ++ rest).drop 2 := by
        simp [written]
      exact iff_of_false (fun h => by cases h) (not_not_intro hcloses)
  | literal text =>
      obtain ⟨-, ⟨hnone, -⟩, -⟩ := hfits
      exact absurd (List.mem_of_mem_head? hbrace) hnone

/-- Every text is cut as it should be. -/
theorem exists_cuts_cut (cs : List Char) : ∃ comment, Cuts cs (cut cs) comment := by
  fun_induction cut cs with
  | case1 cs hnone => exact ⟨cs, .ends (next?_eq_none_iff.mp hnone)⟩
  | case2 cs piece rest hsome ih =>
      obtain ⟨comment, hrest⟩ := ih
      obtain ⟨rfl, hcomment, hfits⟩ := next?_eq_some_iff.mp hsome
      exact ⟨comment, .piece hcomment hfits hrest⟩

/-- There is no other way to cut a text. -/
theorem Cuts.eq_cut {text comment : List Char} {pieces : List Piece}
    (h : Cuts text pieces comment) : pieces = cut text := by
  induction h with
  | ends hend =>
      rw [cut]
      split
      · rfl
      · rename_i hsome
        rw [next?_eq_none_iff.mpr hend] at hsome
        cases hsome
  | piece hcomment hfits _ ih =>
      rw [cut]
      split
      · rename_i hnone
        rw [next?_of_fits hcomment hfits] at hnone
        cases hnone
      · rename_i hsome
        rw [next?_of_fits hcomment hfits] at hsome
        cases hsome
        rw [ih]

/-- A mere comment is cut into nothing. -/
theorem cut_of_isComment {text : List Char} (h : IsComment text) : cut text = [] :=
  (Cuts.ends (.inr h)).eq_cut.symm

theorem Cuts.unique {text comment comment' : List Char} {pieces pieces' : List Piece}
    (h : Cuts text pieces comment) (h' : Cuts text pieces' comment') :
    pieces' = pieces ∧ comment' = comment := by
  have hpieces : pieces' = pieces := h'.eq_cut.trans h.eq_cut.symm
  refine ⟨hpieces, ?_⟩
  have htext := h'.text_eq.symm.trans h.text_eq
  rw [hpieces] at htext
  exact List.append_cancel_left htext

/-- A piece is written like the token that it carries. -/
theorem written_of_token? {piece : Piece} {token : Token} (h : piece.token? = some token) :
    token.written = piece.written := by
  cases piece with
  | loneBrace => cases h
  | literal text =>
      cases h
      exact String.toList_ofList
  | group interior =>
      cases h
      simp only [Token.written, Token.writeFields, map_toList_map_ofList, join_split, written]

end Piece

/-- Every line is pieces and a comment, which may be empty, and there is just one way to cut it like
this. Its tokens are those that the pieces carry, written as they stand, and the pieces that carry
none are the braces with none to close their group. -/
theorem line_is_cut_in_one_way (line : String) :
    ∃ pieces comment, Piece.Cuts line.toList pieces comment ∧
      line.toList = pieces.flatMap Piece.written ++ comment ∧
      Token.scan line = pieces.filterMap Piece.token? ∧
      (∀ piece ∈ pieces, ∀ token, piece.token? = some token → token.written = piece.written) ∧
      (∀ before piece after, pieces = before ++ piece :: after →
        piece.written.head? = some '{' →
          (piece = .loneBrace ↔
            '}' ∉ (piece.written ++ (after.flatMap Piece.written ++ comment)).drop 2)) ∧
      ∀ pieces' comment', Piece.Cuts line.toList pieces' comment' →
        pieces' = pieces ∧ comment' = comment := by
  obtain ⟨comment, hcuts⟩ := Piece.exists_cuts_cut line.toList
  refine ⟨Piece.cut line.toList, comment, hcuts, hcuts.text_eq, rfl, ?_, ?_, ?_⟩
  · exact fun piece _ token htoken => Piece.written_of_token? htoken
  · intro before piece after hpieces hbrace
    rw [hpieces] at hcuts
    have hthere := hcuts.of_append
    generalize (piece :: after).flatMap Piece.written ++ comment = text at hthere
    cases hthere with
    | piece _ hfits hrest => rw [← hrest.text_eq]; exact hfits.eq_loneBrace_iff hbrace
  · exact fun pieces' comment' h' => hcuts.unique h'

end Walkthrough

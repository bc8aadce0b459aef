import Walkthrough.Proofs.Route.Piece

/-!
# Comments behind a line

A comment that is put behind a line takes away the blanks in front of it, if they are a literal of
their own, and nothing else. This holds of lines in which every brace opens a group: what a comment
says could otherwise close a group that the line left open.

* `withoutBlankEnd` — tokens without a blank literal at their end;
* `Piece.isComment_append_iff` — when a text without `#` runs into a comment;
* `Piece.Cuts.filterMap_cut_append` — the tokens of a text and a comment behind it;
* `comment_behind_a_line_only_trims` — the same for lines.
-/

namespace Walkthrough

open Walkthrough.Text

/-! ## Blanks at the end -/

/-- Whether a token is a literal that holds blanks only. -/
def Token.isBlank : Token → Bool
  | literal text => allBlank text.toList
  | group _ => false

/-- Tokens without the last one if this is blank. -/
def withoutBlankEnd (tokens : List Token) : List Token :=
  if tokens.getLast?.any Token.isBlank then tokens.dropLast else tokens

/-- The first token stays if others follow, or if it is not blank. -/
theorem withoutBlankEnd_cons {token : Token} {tokens : List Token}
    (h : tokens ≠ [] ∨ token.isBlank = false) :
    withoutBlankEnd (token :: tokens) = token :: withoutBlankEnd tokens := by
  unfold withoutBlankEnd
  cases tokens with
  | nil => exact if_neg (Bool.not_eq_true _ ▸ h.resolve_left (absurd rfl))
  | cons next tokens =>
      rw [List.getLast?_cons_cons, List.dropLast_cons_cons]
      split <;> rfl

/-! ## Running into a comment -/

namespace Piece

variable {text rest comment : List Char} {pieces : List Piece}

theorem isComment_hash (note : List Char) : IsComment ('#' :: note) := ⟨[], note, nofun, rfl⟩

theorem IsComment.append (h : IsComment text) (more : List Char) : IsComment (text ++ more) := by
  obtain ⟨blanks, rest, hblanks, rfl⟩ := h
  exact ⟨blanks, rest ++ more, hblanks, by rw [List.append_assoc, List.cons_append]⟩

/-- A text without `#` belongs to a comment behind it exactly if it is blank. -/
theorem isComment_append_iff (htext : '#' ∉ text) :
    IsComment (text ++ rest) ↔ (∀ c ∈ text, isBlank c = true) ∧ IsComment rest := by
  induction text with
  | nil => exact (and_iff_right nofun).symm
  | cons c text ih =>
      obtain ⟨hc, htext⟩ := not_or.mp (mt List.mem_cons.mpr htext)
      rw [List.cons_append, isComment_cons, ih htext, List.forall_mem_cons, and_assoc]
      exact or_iff_right (Ne.symm hc)

/-- Where a text ends, or a comment starts, a comment behind it starts as well. -/
theorem isComment_append_hash (h : text = [] ∨ IsComment text) (note : List Char) :
    IsComment (text ++ '#' :: note) := by
  rcases h with rfl | h
  · exact isComment_hash note
  · exact h.append _

/-! ## Cutting a text with a comment behind it -/

/-- The token of a piece comes before the tokens of the rest. -/
theorem filterMap_cut_piece {piece : Piece} {token : Token}
    (hcomment : ¬IsComment (piece.written ++ rest)) (hfits : piece.Fits rest)
    (htoken : piece.token? = some token) :
    (cut (piece.written ++ rest)).filterMap token? = token :: (cut rest).filterMap token? := by
  obtain ⟨comment, hrest⟩ := exists_cuts_cut rest
  rw [← (Cuts.piece hcomment hfits hrest).eq_cut, List.filterMap_cons_some htoken]

/-- A literal at the end of a text fits there with a comment behind it as well. -/
theorem fits_literal_append {note : List Char} (h : (literal text).Fits rest) :
    (literal text).Fits (rest ++ '#' :: note) := by
  obtain ⟨hne, hplain, hstop⟩ := h
  refine ⟨hne, hplain, ?_⟩
  cases rest with
  | nil => exact fun c hc => .inr (Option.some.inj hc).symm
  | cons c rest => exact hstop

/-- The only literal that a comment behind the text takes away is a blank one at its end. -/
theorem eq_nil_of_isComment_append {note : List Char} (hfits : (literal text).Fits rest)
    (hcomment : ¬IsComment (text ++ rest)) (h : IsComment (text ++ (rest ++ '#' :: note))) :
    rest = [] ∧ allBlank text = true := by
  obtain ⟨-, ⟨-, hhash⟩, hstop⟩ := hfits
  obtain ⟨hblank, hrest⟩ := (isComment_append_iff hhash).mp h
  refine ⟨?_, List.all_eq_true.mpr hblank⟩
  cases rest with
  | nil => rfl
  | cons c rest =>
      rcases hstop c rfl with rfl | rfl
      · exact absurd hrest (not_isComment_brace _)
      · exact absurd ((isComment_append_iff hhash).mpr ⟨hblank, isComment_hash rest⟩) hcomment

/-- Pieces that carry no token are lone braces. -/
theorem filterMap_token?_ne_nil {piece : Piece} (h : piece ≠ .loneBrace) :
    (piece :: pieces).filterMap token? ≠ [] := by
  cases piece with
  | loneBrace => exact absurd rfl h
  | literal text => exact List.cons_ne_nil _ _
  | group interior => exact List.cons_ne_nil _ _

/-- A literal that the comment behind the text leaves alone is followed by a token or not blank. -/
theorem Cuts.ne_nil_or_not_blank {note : List Char} (h : Cuts rest pieces comment)
    (hbraces : .loneBrace ∉ pieces) (hhash : '#' ∉ text)
    (hcomment : ¬IsComment (text ++ (rest ++ '#' :: note))) :
    pieces.filterMap token? ≠ [] ∨ allBlank text = false := by
  cases h with
  | ends hend =>
      right
      have hrest : IsComment (rest ++ '#' :: note) := isComment_append_hash hend note
      rw [Bool.eq_false_iff]
      intro hblank
      exact hcomment ((isComment_append_iff hhash).mpr ⟨List.all_eq_true.mp hblank, hrest⟩)
  | piece _ _ _ => exact .inl (filterMap_token?_ne_nil fun h => hbraces (h ▸ List.mem_cons_self))

/-- With a comment behind a text in which every brace opens a group, a blank literal at the end is
missing, and all other tokens are as before. -/
theorem Cuts.filterMap_cut_append (h : Cuts text pieces comment) (hbraces : .loneBrace ∉ pieces)
    (note : List Char) :
    (cut (text ++ '#' :: note)).filterMap token? = withoutBlankEnd (pieces.filterMap token?) := by
  induction h with
  | ends hend =>
      rw [cut_of_isComment (isComment_append_hash hend note)]
      rfl
  | @piece piece pieces rest comment hcomment hfits hcuts ih =>
      obtain ⟨hpiece, hpieces⟩ := not_or.mp (mt List.mem_cons.mpr hbraces)
      have hrest := ih hpieces
      rw [List.append_assoc]
      cases piece with
      | loneBrace => exact absurd rfl hpiece
      | group interior =>
          have hgroup : (group interior).Fits (rest ++ '#' :: note) := hfits
          rw [filterMap_cut_piece (not_isComment_brace _) hgroup rfl, hrest]
          exact (withoutBlankEnd_cons (.inr rfl)).symm
      | literal text =>
          by_cases hend : IsComment (text ++ (rest ++ '#' :: note))
          · obtain ⟨rfl, hblank⟩ := eq_nil_of_isComment_append hfits hcomment hend
            have hnone : pieces = [] := hcuts.eq_cut.trans (Cuts.ends (.inl rfl)).eq_cut.symm
            rw [← String.toList_ofList (l := text)] at hblank
            rw [written, cut_of_isComment hend, hnone]
            exact (if_pos hblank).symm
          · have hstays := hcuts.ne_nil_or_not_blank hpieces hfits.2.1.2 hend
            rw [← String.toList_ofList (l := text)] at hstays
            rw [filterMap_cut_piece hend (fits_literal_append hfits) rfl, hrest]
            exact (withoutBlankEnd_cons hstays).symm

end Piece

/-! ## Lines -/

/-- A comment that is put behind a line in which every brace opens a group takes away the last token
if this is a literal that holds blanks only, and no other token, whatever the comment says. -/
theorem comment_behind_a_line_only_trims {line : String}
    (h : Piece.loneBrace ∉ Piece.cut line.toList) :
    (∀ note, Token.scan (line ++ "#" ++ note) = withoutBlankEnd (Token.scan line)) ∧
      ∀ note other, Token.scan (line ++ "#" ++ note) = Token.scan (line ++ "#" ++ other) := by
  have hscan (note : String) :
      Token.scan (line ++ "#" ++ note) = withoutBlankEnd (Token.scan line) := by
    obtain ⟨comment, hcuts⟩ := Piece.exists_cuts_cut line.toList
    have htext : (line ++ "#" ++ note).toList = line.toList ++ '#' :: note.toList := by simp
    rw [Token.scan, htext]
    exact hcuts.filterMap_cut_append h note.toList
  exact ⟨hscan, fun note other => (hscan note).trans (hscan other).symm⟩

/-- The blanks behind a group belong to the comment, those behind a word do not. -/
theorem the_comment_takes_blanks_behind_a_group :
    let line := "go \x7btown\x7d \t"
    Piece.loneBrace ∉ Piece.cut line.toList ∧
      Token.scan line = [.literal "go ", .group ["town"], .literal " \t"] ∧
      Token.scan (line ++ "#" ++ "\x7barea|home\x7d") = [.literal "go ", .group ["town"]] ∧
      Token.scan (line ++ "#" ++ "\x7barea|home\x7d") = Token.scan (line ++ "#" ++ "") := by
  intro line
  have hbraces : Piece.loneBrace ∉ Piece.cut line.toList := by decide +kernel
  have hline : Token.scan line = [.literal "go ", .group ["town"], .literal " \t"] := by
    decide +kernel
  obtain ⟨hscan, hsame⟩ := comment_behind_a_line_only_trims hbraces
  exact ⟨hbraces, hline, (hscan _).trans (by rw [hline]; rfl), hsame _ _⟩

/-- A brace that opens no group may be closed by the comment. -/
example : Token.scan ("\x7b" ++ "#" ++ "\x7d") = [.group ["#"]] := by decide +kernel

end Walkthrough

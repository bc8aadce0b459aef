import Walkthrough.Proofs.Route.Image

/-!
# Writing tokens and reading them back

Tokens are written one after the other, just as they stand. They are read back if no two literals
meet, for nothing would part these. What is written after a group is read as if the group were not
there; a literal at the end, however, may go on in the text that comes after it.

* `Canonical` — tokens that can be written as they stand;
* `IsClosed` — tokens with no literal at the end;
* `Piece.Cuts.prepend` — what is cut into pieces is still cut like this with tokens written in front
  of it;
* `scanning_undoes_writing` — canonical tokens are read back, and closed ones whatever comes then.
-/

namespace Walkthrough

open Walkthrough.Text

/-- Tokens that can be written as they stand: a line may have each of them, and between any two
literals there is a group. -/
structure Canonical (tokens : List Token) : Prop where
  scanned : ∀ token ∈ tokens, token.IsScanned
  parted : ∀ k, ¬LiteralsAt tokens k

/-- There are no tokens, or the last one is a group. -/
def IsClosed (tokens : List Token) : Prop :=
  ∀ last ∈ tokens.getLast?, ∃ fields, last = .group fields

/-- The piece that carries a token. -/
def Token.piece : Token → Piece
  | literal text => .literal text.toList
  | group fields => .group (join '|' (fields.map String.toList))

theorem Token.written_piece (token : Token) : token.piece.written = token.written := by
  cases token <;> rfl

theorem Token.token?_piece {token : Token} (h : token.IsScanned) :
    token.piece.token? = some token := by
  cases token with
  | literal text => rw [piece, Piece.token?, String.ofList_toList]
  | group fields => exact token?_group h

/-- The pieces that carry tokens carry just these. -/
theorem filterMap_token?_piece {tokens : List Token} (h : ∀ token ∈ tokens, token.IsScanned) :
    (tokens.map Token.piece).filterMap Piece.token? = tokens := by
  induction tokens with
  | nil => rfl
  | cons token tokens ih =>
      obtain ⟨htoken, htokens⟩ := List.forall_mem_cons.mp h
      rw [List.map_cons, List.filterMap_cons_some (Token.token?_piece htoken), ih htokens]

theorem Canonical.tail {token : Token} {tokens : List Token} (h : Canonical (token :: tokens)) :
    Canonical tokens where
  scanned := (List.forall_mem_cons.mp h.scanned).2
  parted := fun k => h.parted (k + 1)

theorem IsClosed.tail {token : Token} {tokens : List Token} (h : IsClosed (token :: tokens)) :
    IsClosed tokens := by
  intro last hlast
  apply h
  rw [Option.mem_def] at hlast ⊢
  rw [List.getLast?_cons, hlast, Option.getD_some]

theorem not_isClosed_literal (text : String) : ¬IsClosed [.literal text] := by
  intro h
  obtain ⟨fields, hfields⟩ := h _ rfl
  cases hfields

/-- Where a literal ends, the text ends or a group starts. -/
theorem Canonical.after_literal {text : String} {tokens : List Token} {rest : List Char}
    (h : Canonical (.literal text :: tokens))
    (hend : IsClosed (.literal text :: tokens) ∨ rest = []) :
    tokens.flatMap Token.written ++ rest = [] ∨
      ∃ others, tokens.flatMap Token.written ++ rest = '{' :: others := by
  cases tokens with
  | nil => exact .inl (hend.resolve_left (not_isClosed_literal text))
  | cons next tokens =>
      cases next with
      | literal other =>
          exact absurd (literalsAt_zero_iff.mpr ⟨text, other, tokens, rfl⟩) (h.parted 0)
      | group fields => exact .inr ⟨_, rfl⟩

namespace Piece

/-- Tokens that are written in front of a text leave alone how the text is cut, unless a literal
runs into it. -/
theorem Cuts.prepend {rest comment : List Char} {pieces : List Piece}
    (hcuts : Cuts rest pieces comment) {tokens : List Token} (h : Canonical tokens)
    (hend : IsClosed tokens ∨ rest = []) :
    Cuts (tokens.flatMap Token.written ++ rest) (tokens.map Token.piece ++ pieces) comment := by
  induction tokens with
  | nil => exact hcuts
  | cons token tokens ih =>
      have hrest := ih h.tail (hend.imp_left IsClosed.tail)
      have htoken := h.scanned token List.mem_cons_self
      have hwritten : (token :: tokens).flatMap Token.written ++ rest =
          token.piece.written ++ (tokens.flatMap Token.written ++ rest) := by
        rw [List.flatMap_cons, List.append_assoc, Token.written_piece]
      rw [hwritten, List.map_cons, List.cons_append]
      cases token with
      | group fields => exact .piece (not_isComment_brace _) htoken.2.2 hrest
      | literal text =>
          obtain ⟨hne, hopen, hhash⟩ := htoken
          have htext : text.toList ≠ [] := fun hnil => hne (String.toList_eq_nil_iff.mp hnil)
          rcases h.after_literal hend with hnil | ⟨others, hbrace⟩
          · rw [hnil] at hrest ⊢
            have hnot : ¬IsComment (text.toList ++ []) :=
              not_isComment_append hhash not_isComment_nil
            exact .piece hnot ⟨htext, ⟨hopen, hhash⟩, nofun⟩ hrest
          · rw [hbrace] at hrest ⊢
            have hnot : ¬IsComment (text.toList ++ '{' :: others) :=
              not_isComment_append hhash (not_isComment_brace others)
            have hstop : ∀ c ∈ ('{' :: others).head?, c = '{' ∨ c = '#' :=
              fun c hc => .inl (Option.some.inj hc).symm
            exact .piece hnot ⟨htext, ⟨hopen, hhash⟩, hstop⟩ hrest

end Piece

/-- The tokens of written tokens and of a text after them. -/
theorem scan_written_append {tokens : List Token} (h : Canonical tokens) {text : String}
    (hend : IsClosed tokens ∨ text.toList = []) :
    Token.scan (String.ofList (tokens.flatMap Token.written) ++ text) =
      tokens ++ Token.scan text := by
  obtain ⟨comment, hcuts⟩ := Piece.exists_cuts_cut text.toList
  rw [Token.scan, String.toList_append, String.toList_ofList, ← (hcuts.prepend h hend).eq_cut,
    List.filterMap_append, filterMap_token?_piece h.scanned, hcuts.eq_cut, Token.scan]

theorem scan_empty : Token.scan "" = [] := by
  have hcut : [] = Piece.cut [] := (Piece.Cuts.ends (.inl rfl)).eq_cut
  rw [Token.scan, String.toList_empty, ← hcut, List.filterMap_nil]

/-- Canonical tokens are read back from the line that is written for them. If no literal is at the
end, then whatever is written after them, be it well formed or not, is read as if it stood alone. -/
theorem scanning_undoes_writing {tokens : List Token} (h : Canonical tokens) :
    Token.scan (String.ofList (tokens.flatMap Token.written)) = tokens ∧
      (IsClosed tokens → ∀ text : String,
        Token.scan (String.ofList (tokens.flatMap Token.written) ++ text) =
          tokens ++ Token.scan text) := by
  constructor
  · have hline := @scan_written_append tokens h "" (.inr rfl)
    rwa [String.append_empty, scan_empty, List.append_nil] at hline
  · exact fun hclosed text => scan_written_append h (.inl hclosed)

/-- A comment mark, opening braces and bars are safe inside a group, and what comes after it may be
a lone brace and a comment. -/
theorem what_follows_a_group_is_read_alone :
    let tokens : List Token := [.literal " \x7d ", .group ["\x7d\x7b#", "", " "]]
    let text := " \x7d\x7bx #"
    Canonical tokens ∧ IsClosed tokens ∧
      String.ofList (tokens.flatMap Token.written) = " \x7d \x7b\x7d\x7b#|| \x7d" ∧
      Token.scan " \x7d \x7b\x7d\x7b#|| \x7d" = tokens ∧
      Token.scan (" \x7d \x7b\x7d\x7b#|| \x7d" ++ text) =
        tokens ++ [.literal " \x7d", .literal "x "] := by
  intro tokens text
  have hcanonical : Canonical tokens := by
    refine ⟨List.forall_mem_cons.mpr ⟨?_, List.forall_mem_singleton.mpr ?_⟩, ?_⟩
    · exact ⟨by decide, by decide, by decide⟩
    · exact ⟨by decide, by decide, '}', _, rfl, by decide⟩
    · rintro k ⟨a, b, ha, hb⟩
      match k with
      | 0 => cases hb
      | 1 => cases ha
      | k + 2 => cases ha
  have hclosed : IsClosed tokens := fun last hlast => ⟨_, (Option.some.inj hlast).symm⟩
  have hwritten :
      String.ofList (tokens.flatMap Token.written) = " \x7d \x7b\x7d\x7b#|| \x7d" := by
    decide
  obtain ⟨hback, hafter⟩ := scanning_undoes_writing hcanonical
  have htext : Token.scan text = [.literal " \x7d", .literal "x "] := by decide +kernel
  rw [hwritten] at hback hafter
  exact ⟨hcanonical, hclosed, hwritten, hback, htext ▸ hafter hclosed text⟩

end Walkthrough

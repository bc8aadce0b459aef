import Walkthrough.Proofs.Route.Piece

/-!
# Which tokens a line can have

Not every row of tokens is the tokens of some line. A literal ends at a brace, so two literals in a
row have a lone brace between them, and after a lone brace there is nothing that could close a
group.

* `Token.IsScanned` — what holds of each token by itself;
* `AfterLiterals` — what holds from the first two literals in a row on; `Calm` says the same by
  recursion;
* `Piece.Cuts.calm`, `exists_cuts_writeLine` — the tokens of a line are calm, and calm tokens are
  those of the line that is written for them;
* `exists_scan_eq_iff` — the tokens of the lines are just these.
-/

namespace Walkthrough

open Walkthrough.Text

namespace Token

/-- A token by itself as a line may have it. -/
def IsScanned : Token → Prop
  | literal text => text ≠ "" ∧ '{' ∉ text.toList ∧ '#' ∉ text.toList
  | group fields =>
    fields ≠ [] ∧ (∀ field ∈ fields, '|' ∉ field.toList) ∧
      ∃ first others, join '|' (fields.map String.toList) = first :: others ∧ '}' ∉ others

/-- A literal without a closing brace. -/
def LacksBrace : Token → Prop
  | literal text => '}' ∉ text.toList
  | group _ => False

end Token

/-! ## Two literals in a row -/

/-- Two literals stand in a row at `k`. -/
def LiteralsAt (tokens : List Token) (k : Nat) : Prop :=
  ∃ a b, tokens[k]? = some (.literal a) ∧ tokens[k + 1]? = some (.literal b)

/-- A token that may be the one at `distance` from a lone brace: a literal, and only the very next
one may hold a closing brace, as its first character. -/
def Token.FollowsAt (token : Token) (distance : Nat) : Prop :=
  ∃ text, token = .literal text ∧
    '}' ∉ if distance = 0 then text.toList.tail else text.toList

/-- From the second of the first two literals in a row on there are only literals, and the second
one alone may hold a closing brace, as its first character. -/
def AfterLiterals (tokens : List Token) : Prop :=
  ∀ k, LiteralsAt tokens k → (∀ j < k, ¬LiteralsAt tokens j) →
    ∀ distance token, tokens[k + 1 + distance]? = some token → token.FollowsAt distance

/-- Tokens that may come after a lone brace: literals, where only the first one may hold a closing
brace, as its first character. -/
def FollowsLoneBrace : List Token → Prop
  | [] => True
  | .literal text :: tokens => '}' ∉ text.toList.tail ∧ ∀ token ∈ tokens, token.LacksBrace
  | .group _ :: _ => False

/-- After a literal there comes no literal, or just what may come after a lone brace. -/
def Calm : List Token → Prop
  | [] => True
  | .group _ :: tokens => Calm tokens
  | .literal _ :: tokens =>
    (∀ text rest, tokens = .literal text :: rest → FollowsLoneBrace tokens) ∧ Calm tokens

theorem followsLoneBrace_of_lacksBrace {tokens : List Token}
    (h : ∀ token ∈ tokens, token.LacksBrace) : FollowsLoneBrace tokens := by
  cases tokens with
  | nil => trivial
  | cons token tokens =>
      obtain ⟨htoken, htokens⟩ := List.forall_mem_cons.mp h
      cases token with
      | group fields => exact htoken
      | literal text => exact ⟨fun hmem => htoken (List.mem_of_mem_tail hmem), htokens⟩

theorem lacksBrace_tail_of_followsLoneBrace {token : Token} {tokens : List Token}
    (h : FollowsLoneBrace (token :: tokens)) : ∀ other ∈ tokens, other.LacksBrace := by
  cases token with
  | group fields => exact absurd h id
  | literal text => exact h.2

/-- Where no group is left, nothing can go wrong any more. -/
theorem calm_of_followsLoneBrace {tokens : List Token} (h : FollowsLoneBrace tokens) :
    Calm tokens := by
  induction tokens with
  | nil => trivial
  | cons token tokens ih =>
      have hrest := followsLoneBrace_of_lacksBrace (lacksBrace_tail_of_followsLoneBrace h)
      cases token with
      | group fields => exact absurd h id
      | literal text => exact ⟨fun _ _ _ => hrest, ih hrest⟩

theorem lacksBrace_iff {token : Token} :
    token.LacksBrace ↔ ∃ text, token = .literal text ∧ '}' ∉ text.toList := by
  constructor
  · intro h
    cases token with
    | literal text => exact ⟨text, rfl, h⟩
    | group fields => exact absurd h id
  · rintro ⟨text, rfl, h⟩
    exact h

theorem followsLoneBrace_iff {tokens : List Token} :
    FollowsLoneBrace tokens ↔
      ∀ (distance : Nat) token, tokens[distance]? = some token → token.FollowsAt distance := by
  cases tokens with
  | nil => exact iff_of_true trivial nofun
  | cons first tokens =>
      constructor
      · intro h distance token htoken
        cases first with
        | group fields => exact absurd h id
        | literal text =>
            cases distance with
            | zero =>
                cases htoken
                exact ⟨text, rfl, h.1⟩
            | succ distance => exact lacksBrace_iff.mp (h.2 token (List.mem_of_getElem? htoken))
      · intro h
        obtain ⟨text, rfl, hfirst⟩ := h 0 first rfl
        refine ⟨hfirst, ?_⟩
        intro token htoken
        obtain ⟨distance, hdistance⟩ := List.getElem?_of_mem htoken
        exact lacksBrace_iff.mpr (h (distance + 1) token hdistance)

theorem literalsAt_zero_iff {tokens : List Token} :
    LiteralsAt tokens 0 ↔ ∃ a b rest, tokens = .literal a :: .literal b :: rest := by
  constructor
  · rintro ⟨a, b, ha, hb⟩
    match tokens, ha, hb with
    | _ :: _ :: rest, rfl, rfl => exact ⟨a, b, rest, rfl⟩
  · rintro ⟨a, b, rest, rfl⟩
    exact ⟨a, b, rfl, rfl⟩

/-- What does not start with two literals is as good as the rest of it. -/
theorem afterLiterals_cons_iff {token : Token} {tokens : List Token}
    (h : ¬LiteralsAt (token :: tokens) 0) :
    AfterLiterals (token :: tokens) ↔ AfterLiterals tokens := by
  have hlater : ∀ k distance,
      (token :: tokens)[k + 1 + 1 + distance]? = tokens[k + 1 + distance]? := by
    intro k distance
    rw [Nat.add_right_comm (k + 1) 1 distance, List.getElem?_cons_succ]
  constructor
  · intro hafter k hk hfirst distance other hother
    refine hafter (k + 1) hk ?_ distance other ((hlater k distance).trans hother)
    intro j hj
    cases j with
    | zero => exact h
    | succ j => exact hfirst j (Nat.lt_of_succ_lt_succ hj)
  · intro hafter k hk hfirst distance other hother
    cases k with
    | zero => exact absurd hk h
    | succ k =>
        have hfirst' : ∀ j < k, ¬LiteralsAt tokens j :=
          fun j hj => hfirst (j + 1) (Nat.succ_lt_succ hj)
        exact hafter k hk hfirst' distance other ((hlater k distance).symm.trans hother)

/-- What starts with two literals goes on as after a lone brace. -/
theorem afterLiterals_literals_iff {a b : String} {tokens : List Token} :
    AfterLiterals (.literal a :: .literal b :: tokens) ↔
      FollowsLoneBrace (.literal b :: tokens) := by
  rw [followsLoneBrace_iff]
  have hstart : LiteralsAt (.literal a :: .literal b :: tokens) 0 := ⟨a, b, rfl, rfl⟩
  have hnext : ∀ distance, (Token.literal a :: .literal b :: tokens)[0 + 1 + distance]? =
      (Token.literal b :: tokens)[distance]? := by
    intro distance
    rw [Nat.zero_add, Nat.add_comm 1 distance, List.getElem?_cons_succ]
  constructor
  · intro hafter distance token htoken
    exact hafter 0 hstart nofun distance token ((hnext distance).trans htoken)
  · intro hfollows k hk hfirst distance token htoken
    cases k with
    | zero => exact hfollows distance token ((hnext distance).symm.trans htoken)
    | succ k => exact absurd hstart (hfirst 0 (Nat.succ_pos k))

/-- The two ways to say what comes after two literals in a row. -/
theorem calm_iff {tokens : List Token} : Calm tokens ↔ AfterLiterals tokens := by
  induction tokens with
  | nil =>
      refine iff_of_true trivial ?_
      rintro k ⟨a, b, ha, -⟩
      cases ha
  | cons token tokens ih =>
      -- Two literals at the start settle all that comes then; otherwise the first token may go.
      by_cases hstart : LiteralsAt (token :: tokens) 0
      · obtain ⟨a, b, rest, heq⟩ := literalsAt_zero_iff.mp hstart
        cases heq
        rw [afterLiterals_literals_iff]
        constructor
        · intro hcalm
          exact hcalm.1 b rest rfl
        · intro hfollows
          exact ⟨fun _ _ _ => hfollows, calm_of_followsLoneBrace hfollows⟩
      · rw [afterLiterals_cons_iff hstart, ← ih]
        cases token with
        | group fields => exact Iff.rfl
        | literal a =>
            have hnone : ∀ b rest, tokens ≠ .literal b :: rest := by
              rintro b rest rfl
              exact hstart (literalsAt_zero_iff.mpr ⟨a, b, rest, rfl⟩)
            constructor
            · intro hcalm
              exact hcalm.2
            · intro hcalm
              exact ⟨fun b rest heq => absurd heq (hnone b rest), hcalm⟩

/-! ## The tokens of a line are calm -/

namespace Piece

theorem isScanned_of_fits {piece : Piece} {rest : List Char} {token : Token}
    (hfits : piece.Fits rest) (h : piece.token? = some token) : token.IsScanned := by
  have hwritten := written_of_token? h
  cases piece with
  | loneBrace => cases h
  | literal text =>
      cases h
      obtain ⟨hne, hplain, -⟩ := hfits
      refine ⟨fun hempty => hne ?_, ?_⟩
      · rw [← String.toList_ofList (l := text), hempty]
        rfl
      · rw [String.toList_ofList]
        exact hplain
  | group interior =>
      cases h
      refine ⟨?_, ?_, ?_⟩
      · rw [ne_eq, List.map_eq_nil_iff]
        exact split_ne_nil '|' interior
      · intro field hfield
        obtain ⟨part, hpart, rfl⟩ := List.mem_map.mp hfield
        rw [String.toList_ofList]
        exact not_mem_of_mem_split hpart
      · have hjoin : join '|' (((split '|' interior).map String.ofList).map String.toList) =
            interior := by
          simpa [Token.written, Token.writeFields, written] using hwritten
        rw [hjoin]
        exact hfits

variable {text comment : List Char} {pieces : List Piece}

theorem Cuts.isScanned (h : Cuts text pieces comment) :
    ∀ token ∈ pieces.filterMap token?, token.IsScanned := by
  induction h with
  | ends _ => exact nofun
  | piece _ hfits _ ih =>
      intro token htoken
      obtain ⟨piece, hpiece, hcarries⟩ := List.mem_filterMap.mp htoken
      rcases List.mem_cons.mp hpiece with rfl | hrest
      · exact isScanned_of_fits hfits hcarries
      · exact ih token (List.mem_filterMap.mpr ⟨piece, hrest, hcarries⟩)

/-- Without closing braces in the text there are none in the tokens, and so no groups. -/
theorem Cuts.lacksBrace (h : Cuts text pieces comment) (hbrace : '}' ∉ text) :
    ∀ token ∈ pieces.filterMap token?, token.LacksBrace := by
  induction h with
  | ends _ => exact nofun
  | @piece piece pieces rest comment _ hfits _ ih =>
      obtain ⟨hpiece, hrest⟩ := not_or.mp (mt List.mem_append.mpr hbrace)
      cases piece with
      | loneBrace => exact ih hrest
      | literal text =>
          refine List.forall_mem_cons.mpr ⟨?_, ih hrest⟩
          show '}' ∉ (String.ofList text).toList
          rw [String.toList_ofList]
          exact hpiece
      | group interior => exact absurd (by simp [written]) hpiece

/-- Where a closing brace can only come first, the tokens are as after a lone brace. -/
theorem Cuts.followsLoneBrace (h : Cuts text pieces comment) (hbrace : '}' ∉ text.tail) :
    FollowsLoneBrace (pieces.filterMap token?) := by
  cases h with
  | ends _ => trivial
  | @piece piece pieces rest comment _ hfits hcuts =>
      cases piece with
      | loneBrace => exact followsLoneBrace_of_lacksBrace (hcuts.lacksBrace hbrace)
      | literal text =>
          obtain ⟨hne, -⟩ := hfits
          obtain ⟨c, text, rfl⟩ := List.exists_cons_of_ne_nil hne
          obtain ⟨htext, hrest⟩ := not_or.mp (mt List.mem_append.mpr hbrace)
          refine ⟨?_, hcuts.lacksBrace hrest⟩
          rw [String.toList_ofList]
          exact htext
      | group interior =>
          obtain ⟨first, others, rfl, -⟩ := hfits
          exact absurd (by simp [written]) hbrace

/-- A literal that comes right after another one comes after a lone brace. -/
theorem Cuts.followsLoneBrace_of_head (h : Cuts text pieces comment)
    (hhead : ∀ c ∈ text.head?, c = '{' ∨ c = '#') {word : String} {tokens : List Token}
    (htokens : pieces.filterMap token? = .literal word :: tokens) :
    FollowsLoneBrace (pieces.filterMap token?) := by
  cases h with
  | ends _ => cases htokens
  | @piece piece pieces rest comment _ hfits hcuts =>
      cases piece with
      | loneBrace => exact hcuts.followsLoneBrace hfits
      | group interior => cases htokens
      | literal text =>
          obtain ⟨hne, ⟨hopen, hhash⟩, -⟩ := hfits
          obtain ⟨c, text, rfl⟩ := List.exists_cons_of_ne_nil hne
          rcases hhead c rfl with rfl | rfl
          · exact absurd List.mem_cons_self hopen
          · exact absurd List.mem_cons_self hhash

/-- The tokens of a line are calm. -/
theorem Cuts.calm (h : Cuts text pieces comment) : Calm (pieces.filterMap token?) := by
  induction h with
  | ends _ => trivial
  | @piece piece pieces rest comment _ hfits hcuts ih =>
      cases piece with
      | loneBrace => exact ih
      | group interior => exact ih
      | literal text =>
          -- A literal goes on as far as it can, so what comes then does not start with one.
          obtain ⟨-, -, hstop⟩ := hfits
          exact ⟨fun _ _ htokens => hcuts.followsLoneBrace_of_head hstop htokens, ih⟩

end Piece

theorem Token.isScanned_of_mem_scan {line : String} {token : Token} (h : token ∈ Token.scan line) :
    token.IsScanned := by
  obtain ⟨comment, hcuts⟩ := Piece.exists_cuts_cut line.toList
  exact hcuts.isScanned token h

theorem calm_scan (line : String) : Calm (Token.scan line) := by
  obtain ⟨comment, hcuts⟩ := Piece.exists_cuts_cut line.toList
  exact hcuts.calm

/-! ## Calm tokens are those of a line -/

/-- What has to be written before tokens that come after a literal. -/
def gapBefore : List Token → List Char
  | .literal _ :: _ => ['{']
  | _ => []

/-- Tokens as a line: a lone brace is put between two literals in a row. -/
def writeLine : List Token → List Char
  | [] => []
  | .group fields :: tokens => Token.writeFields fields ++ writeLine tokens
  | .literal text :: tokens => text.toList ++ (gapBefore tokens ++ writeLine tokens)

theorem not_mem_gapBefore (tokens : List Token) : '}' ∉ gapBefore tokens := by
  unfold gapBefore
  split <;> decide

theorem not_mem_writeLine {tokens : List Token} (h : ∀ token ∈ tokens, token.LacksBrace) :
    '}' ∉ writeLine tokens := by
  induction tokens with
  | nil => exact List.not_mem_nil
  | cons token tokens ih =>
      obtain ⟨htoken, htokens⟩ := List.forall_mem_cons.mp h
      cases token with
      | group fields => exact absurd htoken id
      | literal text =>
          simp only [writeLine, List.mem_append, not_or]
          exact ⟨htoken, not_mem_gapBefore tokens, ih htokens⟩

theorem not_mem_tail_writeLine {tokens : List Token}
    (hscanned : ∀ token ∈ tokens, token.IsScanned) (h : FollowsLoneBrace tokens) :
    '}' ∉ (writeLine tokens).tail := by
  cases tokens with
  | nil => exact List.not_mem_nil
  | cons token tokens =>
      cases token with
      | group fields => exact absurd h id
      | literal text =>
          obtain ⟨hne, -⟩ := hscanned _ List.mem_cons_self
          have htext : text.toList ≠ [] := fun hnil => hne (String.toList_eq_nil_iff.mp hnil)
          rw [writeLine, List.tail_append_of_ne_nil htext]
          simp only [List.mem_append, not_or]
          exact ⟨h.1, not_mem_gapBefore tokens, not_mem_writeLine h.2⟩

/-- After a literal a line ends, or there is a brace. -/
theorem gapBefore_append_writeLine (tokens : List Token) :
    gapBefore tokens ++ writeLine tokens = [] ∨
      ∃ rest, gapBefore tokens ++ writeLine tokens = '{' :: rest := by
  cases tokens with
  | nil => exact .inl rfl
  | cons token tokens =>
      cases token with
      | literal text => exact .inr ⟨_, rfl⟩
      | group fields => exact .inr ⟨_, rfl⟩

theorem not_isComment_gap (tokens : List Token) :
    ¬Piece.IsComment (gapBefore tokens ++ writeLine tokens) := by
  rcases gapBefore_append_writeLine tokens with hnil | ⟨rest, hrest⟩
  · rw [hnil]
    exact Piece.not_isComment_nil
  · rw [hrest]
    exact Piece.not_isComment_brace rest

theorem head?_gap (tokens : List Token) :
    ∀ c ∈ (gapBefore tokens ++ writeLine tokens).head?, c = '{' ∨ c = '#' := by
  intro c hc
  rcases gapBefore_append_writeLine tokens with hnil | ⟨rest, hrest⟩
  · rw [hnil] at hc
    cases hc
  · rw [hrest] at hc
    exact .inl (Option.some.inj hc).symm

/-- The interior that is written for a group is split into the fields of the group again. -/
theorem token?_group {fields : List String} (h : (Token.group fields).IsScanned) :
    (Piece.group (join '|' (fields.map String.toList))).token? = some (.group fields) := by
  obtain ⟨hne, hfields, -⟩ := h
  have hsplit : split '|' (join '|' (fields.map String.toList)) = fields.map String.toList := by
    refine split_join (mt List.map_eq_nil_iff.mp hne) ?_
    intro part hpart
    obtain ⟨field, hfield, rfl⟩ := List.mem_map.mp hpart
    exact hfields field hfield
  have hback : (fields.map String.toList).map String.ofList = fields := by
    simp [List.map_map, Function.comp_def]
  rw [Piece.token?, hsplit, hback]

open Piece (Cuts token?)

/-- The brace that may have to be put before some tokens carries no token. -/
theorem exists_cuts_gapBefore {tokens : List Token} {pieces : List Piece}
    (hscanned : ∀ token ∈ tokens, token.IsScanned)
    (hfollows : ∀ text rest, tokens = .literal text :: rest → FollowsLoneBrace tokens)
    (hcuts : Cuts (writeLine tokens) pieces []) :
    ∃ pieces', Cuts (gapBefore tokens ++ writeLine tokens) pieces' [] ∧
      pieces'.filterMap token? = pieces.filterMap token? := by
  cases tokens with
  | nil => exact ⟨pieces, hcuts, rfl⟩
  | cons token rest =>
      cases token with
      | group fields => exact ⟨pieces, hcuts, rfl⟩
      | literal text =>
          have hfits : Piece.loneBrace.Fits (writeLine (.literal text :: rest)) :=
            not_mem_tail_writeLine hscanned (hfollows text rest rfl)
          have hbrace : Cuts ('{' :: writeLine (.literal text :: rest)) (.loneBrace :: pieces) [] :=
            @Cuts.piece .loneBrace _ _ _ (Piece.not_isComment_brace _) hfits hcuts
          exact ⟨.loneBrace :: pieces, hbrace, rfl⟩

/-- The line that is written for calm tokens has just these tokens. -/
theorem exists_cuts_writeLine {tokens : List Token}
    (hscanned : ∀ token ∈ tokens, token.IsScanned) (hcalm : Calm tokens) :
    ∃ pieces, Cuts (writeLine tokens) pieces [] ∧ pieces.filterMap token? = tokens := by
  induction tokens with
  | nil => exact ⟨[], .ends (.inl rfl), rfl⟩
  | cons token tokens ih =>
      obtain ⟨htoken, htokens⟩ := List.forall_mem_cons.mp hscanned
      cases token with
      | group fields =>
          obtain ⟨pieces, hcuts, hpieces⟩ := ih htokens hcalm
          have hgroup : Cuts (writeLine (.group fields :: tokens))
              (.group (join '|' (fields.map String.toList)) :: pieces) [] :=
            @Cuts.piece (.group _) _ _ _ (Piece.not_isComment_brace _) htoken.2.2 hcuts
          refine ⟨_, hgroup, ?_⟩
          rw [List.filterMap_cons_some (token?_group htoken), hpieces]
      | literal text =>
          obtain ⟨hne, hopen, hhash⟩ := htoken
          obtain ⟨pieces, hcuts, hpieces⟩ := ih htokens hcalm.2
          obtain ⟨pieces', hcuts', hsame⟩ := exists_cuts_gapBefore htokens hcalm.1 hcuts
          have hnot : ¬Piece.IsComment (text.toList ++ (gapBefore tokens ++ writeLine tokens)) :=
            Piece.not_isComment_append hhash (not_isComment_gap tokens)
          have hfits : (Piece.literal text.toList).Fits (gapBefore tokens ++ writeLine tokens) :=
            ⟨fun hnil => hne (String.toList_eq_nil_iff.mp hnil), ⟨hopen, hhash⟩, head?_gap tokens⟩
          have hliteral : Cuts (writeLine (.literal text :: tokens))
              (.literal text.toList :: pieces') [] :=
            @Cuts.piece (.literal _) _ _ _ hnot hfits hcuts'
          refine ⟨_, hliteral, ?_⟩
          rw [List.filterMap_cons, token?, String.ofList_toList, hsame, hpieces]

/-- Tokens by themselves as a line may have them, and calm, are those of some line. -/
theorem scan_writeLine {tokens : List Token} (hscanned : ∀ token ∈ tokens, token.IsScanned)
    (hcalm : Calm tokens) : Token.scan (String.ofList (writeLine tokens)) = tokens := by
  obtain ⟨pieces, hcuts, hpieces⟩ := exists_cuts_writeLine hscanned hcalm
  rw [Token.scan, String.toList_ofList, ← hcuts.eq_cut, hpieces]

/-- The rows of tokens that some line has are these: its literals are not empty and hold neither an
opening brace nor `#`; its groups have fields without bars and something inside, which can hold a
closing brace only as its first character; and from the second of the first two literals in a row on
there are only literals, where the second one alone may hold a closing brace, as its first
character. -/
theorem exists_scan_eq_iff (tokens : List Token) :
    (∃ line, Token.scan line = tokens) ↔
      (∀ token ∈ tokens, token.IsScanned) ∧ AfterLiterals tokens := by
  rw [← calm_iff]
  constructor
  · rintro ⟨line, rfl⟩
    exact ⟨fun token htoken => Token.isScanned_of_mem_scan htoken, calm_scan line⟩
  · rintro ⟨hscanned, hcalm⟩
    exact ⟨_, scan_writeLine hscanned hcalm⟩

end Walkthrough

import Walkthrough.Proofs.Route.Piece

/-!
# Scanning from place to place

The tokens of a line can also be found by a loop over the places of its characters. At each place
the loop looks for a comment, for the brace that closes a group or for the end of a literal, and goes
on behind what it has found. Nothing counts down in such a loop. Where `#` stands a literal would be
empty, and the loop would never leave the place; but there a comment starts, which ends the loop.

* `Scanner.runEnd` — the place where a run of characters ends;
* `Scanner.round?` — one round of the loop, and `Scanner.Rounds` all of them from a place on;
* `Scanner.Round` — what a round does, case by case;
* `Scanner.round?_eq` — a round takes the piece that comes next;
* `scanning_always_advances` — each round leads to a later place and adds nothing that is empty, so
  that the loop finds the tokens of a line in no more rounds than the line has characters.
-/

namespace Walkthrough

open Walkthrough.Text

/-- Whether there is nothing in a token: no character in a literal or between the braces of a
group. -/
def Token.IsEmpty : Token → Prop
  | literal text => text = ""
  | group fields => join '|' (fields.map String.toList) = []

namespace Scanner

/-! ## The loop -/

/-- The first place from a place on whose character does not belong to the run, or the end of the
text. -/
def runEnd (inRun : Char → Bool) (text : List Char) (place : Nat) : Nat :=
  if _h : place < text.length then
    if inRun text[place] then runEnd inRun text (place + 1) else place
  else place
termination_by text.length - place

/-- The first place from a place on where a mark stands. -/
def find? (mark : Char) (text : List Char) (place : Nat) : Option Nat :=
  let found := runEnd (· != mark) text place
  if found < text.length then some found else none

/-- Whether a comment starts at a place, after any blanks. -/
def commentAt (text : List Char) (place : Nat) : Bool :=
  text[runEnd isBlank text place]? == some '#'

/-- The token of a group, from the place after its opening brace to that of its closing brace. -/
def groupBetween (text : List Char) (first close : Nat) : Token :=
  .group ((split '|' (text.extract first close)).map String.ofList)

/-- One round of the loop: the token that it adds, if it adds one, and the place where the next round
starts. At the end of the text and at a comment the loop is over. -/
def round? (text : List Char) (place : Nat) : Option (Option Token × Nat) :=
  if text.length ≤ place ∨ commentAt text place = true then none
  else if text[place]? = some '{' then
    match find? '}' text (place + 2) with
    | some close => some (some (groupBetween text (place + 1) close), close + 1)
    | none => some (none, place + 1)
  else
    let stop := runEnd Piece.isPlain text place
    some (some (.literal (String.ofList (text.extract place stop))), stop)

/-- The rounds of the loop that starts at a place, up to its end: the place where each of them
starts, and the tokens that they add. -/
inductive Rounds (text : List Char) : Nat → List Nat → List Token → Prop
  | ended {place : Nat} (h : round? text place = none) : Rounds text place [] []
  | round {place next : Nat} {added : Option Token} {places : List Nat} {tokens : List Token}
      (h : round? text place = some (added, next)) (rest : Rounds text next places tokens) :
      Rounds text place (place :: places) (added.toList ++ tokens)

section Places

variable {inRun : Char → Bool} {mark : Char} {text : List Char} {place next close : Nat}
variable {added : Option Token} {fields : List String} {places : List Nat} {tokens : List Token}

/-! ## Where a run ends -/

theorem runEnd_eq (inRun : Char → Bool) (text : List Char) (place : Nat) :
    runEnd inRun text place = place + ((text.drop place).takeWhile inRun).length := by
  fun_induction runEnd inRun text place with
  | case1 place hplace hrun ih =>
      rw [ih, List.drop_eq_getElem_cons hplace, List.takeWhile_cons_of_pos hrun, List.length_cons]
      omega
  | case2 place hplace hrun =>
      rw [List.drop_eq_getElem_cons hplace, List.takeWhile_cons_of_neg hrun]
      rfl
  | case3 place hplace =>
      rw [List.drop_eq_nil_of_le (Nat.le_of_not_lt hplace)]
      rfl

theorem drop_runEnd (inRun : Char → Bool) (text : List Char) (place : Nat) :
    text.drop (runEnd inRun text place) = (text.drop place).dropWhile inRun := by
  fun_induction runEnd inRun text place with
  | case1 place hplace hrun ih =>
      rw [ih, List.drop_eq_getElem_cons hplace, List.dropWhile_cons_of_pos hrun]
  | case2 place hplace hrun =>
      rw [List.drop_eq_getElem_cons hplace, List.dropWhile_cons_of_neg hrun]
  | case3 place hplace =>
      rw [List.drop_eq_nil_of_le (Nat.le_of_not_lt hplace)]
      rfl

theorem le_runEnd : place ≤ runEnd inRun text place := by
  rw [runEnd_eq]
  exact Nat.le_add_right _ _

theorem runEnd_le (h : place ≤ text.length) : runEnd inRun text place ≤ text.length := by
  have htake : ((text.drop place).takeWhile inRun).length ≤ (text.drop place).length :=
    (List.takeWhile_prefix inRun).length_le
  rw [List.length_drop] at htake
  rw [runEnd_eq]
  omega

/-- A run that starts at a place goes on behind it. -/
theorem lt_runEnd (hplace : place < text.length) (hrun : inRun text[place] = true) :
    place < runEnd inRun text place := by
  rw [runEnd, dif_pos hplace, if_pos hrun]
  exact le_runEnd

theorem extract_runEnd :
    text.extract place (runEnd inRun text place) = (text.drop place).takeWhile inRun := by
  rw [List.extract_eq_take_drop, runEnd_eq, Nat.add_sub_cancel_left]
  exact (List.prefix_iff_eq_take.mp (List.takeWhile_prefix inRun)).symm

theorem forall_mem_extract_runEnd :
    ∀ c ∈ text.extract place (runEnd inRun text place), inRun c = true := by
  rw [extract_runEnd]
  exact List.all_eq_true.mp List.all_takeWhile

/-- The text from a place on is the run and what comes behind it. -/
theorem drop_eq_extract_append (inRun : Char → Bool) (text : List Char) (place : Nat) :
    text.drop place =
      text.extract place (runEnd inRun text place) ++ text.drop (runEnd inRun text place) := by
  rw [extract_runEnd, drop_runEnd, List.takeWhile_append_dropWhile]

/-- The character that ends a run does not belong to it. -/
theorem inRun_runEnd : ∀ c ∈ text[runEnd inRun text place]?, inRun c = false := by
  intro c hc
  have hstop := List.head?_dropWhile_not inRun (text.drop place)
  rw [← drop_runEnd, List.head?_drop, Option.mem_def.mp hc] at hstop
  exact hstop

/-! ## What a round looks for -/

theorem commentAt_eq (text : List Char) (place : Nat) :
    commentAt text place = Piece.opensComment (text.drop place) := by
  rw [commentAt, ← List.head?_drop, drop_runEnd, Piece.opensComment]

/-- Where `#` stands a comment starts. -/
theorem commentAt_of_hash (h : text[place]? = some '#') : commentAt text place = true := by
  obtain ⟨hplace, hhash⟩ := List.getElem?_eq_some_iff.mp h
  have hblank : ¬isBlank text[place] = true := by
    rw [hhash, isBlank_hash]
    exact Bool.false_ne_true
  rw [commentAt, runEnd, dif_pos hplace, if_neg hblank, h]
  rfl

theorem find?_eq_some_iff :
    find? mark text place = some close ↔
      runEnd (· != mark) text place = close ∧ close < text.length := by
  rw [find?]
  split
  · rename_i hfound
    exact ⟨fun h => Option.some.inj h ▸ ⟨rfl, hfound⟩, fun h => congrArg some h.1⟩
  · rename_i hfound
    exact iff_of_false nofun fun h => hfound (h.1 ▸ h.2)

theorem not_mem_extract_runEnd : mark ∉ text.extract place (runEnd (· != mark) text place) := by
  intro hmem
  have hother : (mark != mark) = true :=
    @forall_mem_extract_runEnd (· != mark) text place mark hmem
  exact bne_iff_ne.mp hother rfl

/-- No mark stands at a place or later if none is found from there on. -/
theorem not_mem_of_find?_eq_none (h : find? mark text place = none) : mark ∉ text.drop place := by
  have hend : text.length ≤ runEnd (· != mark) text place := by
    refine Nat.le_of_not_lt fun hfound => ?_
    rw [find?_eq_some_iff.mpr ⟨rfl, hfound⟩] at h
    cases h
  rw [drop_eq_extract_append (· != mark), List.drop_eq_nil_of_le hend, List.append_nil]
  exact not_mem_extract_runEnd

theorem le_of_find? (h : find? mark text place = some close) :
    place ≤ close ∧ close < text.length := by
  obtain ⟨rfl, hclose⟩ := find?_eq_some_iff.mp h
  exact ⟨le_runEnd, hclose⟩

/-- What is found is the first mark from the place on. -/
theorem first_of_find? (h : find? mark text place = some close) :
    text[close]? = some mark ∧ mark ∉ text.extract place close := by
  obtain ⟨rfl, hclose⟩ := find?_eq_some_iff.mp h
  have hmark : text[runEnd (· != mark) text place] = mark := by
    simpa using inRun_runEnd _ (List.getElem?_eq_getElem hclose)
  exact ⟨List.getElem?_eq_some_iff.mpr ⟨hclose, hmark⟩, not_mem_extract_runEnd⟩

/-! ## One round -/

/-- What a round does: it takes a group, skips a brace that opens none, or takes a literal. -/
inductive Round (text : List Char) (place : Nat) : Option Token → Nat → Prop
  | group {close : Nat} (hopen : text[place]? = some '{')
      (hclose : find? '}' text (place + 2) = some close) :
      Round text place (some (groupBetween text (place + 1) close)) (close + 1)
  | brace (hopen : text[place]? = some '{') (hnone : find? '}' text (place + 2) = none) :
      Round text place none (place + 1)
  | literal (hplain : text[place]? ≠ some '{') :
      Round text place
        (some (.literal (String.ofList (text.extract place (runEnd Piece.isPlain text place)))))
        (runEnd Piece.isPlain text place)

theorem round_of_round? (h : round? text place = some (added, next)) :
    place < text.length ∧ commentAt text place = false ∧ Round text place added next := by
  unfold round? at h
  split at h
  · cases h
  rename_i hgoes
  obtain ⟨hplace, hcomment⟩ := not_or.mp hgoes
  refine ⟨Nat.lt_of_not_le hplace, Bool.eq_false_iff.mpr hcomment, ?_⟩
  split at h
  · rename_i hopen
    split at h
    · rename_i close hclose
      cases h
      exact .group hopen hclose
    · rename_i hnone
      cases h
      exact .brace hopen hnone
  · rename_i hplain
    cases h
    exact .literal hplain

/-- Where a round takes a literal there is a character that belongs to it: neither a brace, nor `#`,
since no comment starts there. -/
theorem isPlain_of_not_commentAt (hplace : place < text.length) (hcomment : commentAt text place = false)
    (hbrace : text[place]? ≠ some '{') : Piece.isPlain text[place] = true := by
  rw [List.getElem?_eq_getElem hplace] at hbrace
  refine Piece.isPlain_iff.mpr ⟨fun h => hbrace (congrArg some h), fun hhash => ?_⟩
  have hat : text[place]? = some '#' := List.getElem?_eq_some_iff.mpr ⟨hplace, hhash⟩
  rw [commentAt_of_hash hat] at hcomment
  cases hcomment

/-- A round leads to a later place, which may be the end of the text. -/
theorem lt_and_le_of_round? (h : round? text place = some (added, next)) :
    place < next ∧ next ≤ text.length := by
  obtain ⟨hplace, hcomment, hround⟩ := round_of_round? h
  cases hround with
  | group hopen hclose =>
      obtain ⟨hroom, hend⟩ := le_of_find? hclose
      omega
  | brace hopen hnone => omega
  | literal hplain =>
      have hrun := isPlain_of_not_commentAt hplace hcomment hplain
      exact ⟨lt_runEnd hplace hrun, runEnd_le (Nat.le_of_lt hplace)⟩

theorem extract_ne_nil (hlt : place < next) (hle : next ≤ text.length) :
    text.extract place next ≠ [] := by
  rw [List.extract_eq_take_drop, ← List.length_pos_iff, List.length_take, List.length_drop]
  omega

/-- What a round adds is not empty. -/
theorem not_isEmpty_of_round? (h : round? text place = some (added, next)) :
    ∀ token ∈ added, ¬token.IsEmpty := by
  intro token htoken hempty
  obtain ⟨hlt, hle⟩ := lt_and_le_of_round? h
  obtain ⟨-, -, hround⟩ := round_of_round? h
  cases hround with
  | group hopen hclose =>
      obtain rfl := Option.some.inj htoken
      obtain ⟨hroom, hend⟩ := le_of_find? hclose
      rw [groupBetween, Token.IsEmpty, map_toList_map_ofList, join_split] at hempty
      exact extract_ne_nil hroom (Nat.le_of_lt hend) hempty
  | brace hopen hnone => cases htoken
  | literal hplain =>
      obtain rfl := Option.some.inj htoken
      exact extract_ne_nil hlt hle (String.ofList_eq_empty_iff.mp hempty)

/-- A round that takes a group ends behind the first closing brace that leaves something inside. -/
theorem exists_close_of_round? (h : round? text place = some (some (.group fields), next)) :
    ∃ close, next = close + 1 ∧ place + 2 ≤ close ∧ text[close]? = some '}' ∧
      '}' ∉ text.extract (place + 2) close := by
  obtain ⟨-, -, hround⟩ := round_of_round? h
  cases hround with
  | @group close hopen hclose => exact ⟨close, rfl, (le_of_find? hclose).1, first_of_find? hclose⟩

/-! ## Rounds and pieces -/

theorem drop_of_getElem? {c : Char} (h : text[place]? = some c) :
    text.drop place = c :: text.drop (place + 1) := by
  obtain ⟨hplace, rfl⟩ := List.getElem?_eq_some_iff.mp h
  exact List.drop_eq_getElem_cons hplace

theorem extract_eq_cons (hplace : place < text.length) (hlt : place < next) :
    text.extract place next = text[place] :: text.extract (place + 1) next := by
  obtain ⟨distance, rfl⟩ := Nat.exists_eq_add_of_lt hlt
  rw [List.extract_eq_take_drop, List.extract_eq_take_drop, List.drop_eq_getElem_cons hplace]
  rw [show place + distance + 1 - place = distance + 1 by omega, List.take_succ_cons]
  rw [show place + distance + 1 - (place + 1) = distance by omega]

/-- The text of a group is what stands from its opening brace to its closing brace, which is the first
that leaves something inside. -/
theorem group_of_find? (hopen : text[place]? = some '{')
    (hclose : find? '}' text (place + 2) = some close) :
    text.drop place =
        (Piece.group (text.extract (place + 1) close)).written ++ text.drop (close + 1) ∧
      (Piece.group (text.extract (place + 1) close)).Fits (text.drop (close + 1)) := by
  obtain ⟨hroom, hend⟩ := le_of_find? hclose
  obtain ⟨hmark, hnone⟩ := first_of_find? hclose
  have hnext : place + 1 < text.length := by omega
  rw [extract_eq_cons hnext hroom]
  refine ⟨?_, _, _, rfl, hnone⟩
  have hinside : text.drop (place + 2) = text.extract (place + 2) close ++ text.drop close := by
    obtain ⟨rfl, -⟩ := find?_eq_some_iff.mp hclose
    exact drop_eq_extract_append _ text (place + 2)
  rw [drop_of_getElem? hopen, List.drop_eq_getElem_cons hnext, hinside, drop_of_getElem? hmark]
  simp [Piece.written]

/-- A round takes the piece that fits at its place, and adds the token that this carries. -/
theorem exists_piece_of_round? (h : round? text place = some (added, next)) :
    ∃ piece : Piece, text.drop place = piece.written ++ text.drop next ∧
      ¬Piece.IsComment (text.drop place) ∧ piece.Fits (text.drop next) ∧
      piece.token? = added := by
  obtain ⟨hlt, hle⟩ := lt_and_le_of_round? h
  obtain ⟨-, hcomment, hround⟩ := round_of_round? h
  have hnot : ¬Piece.IsComment (text.drop place) := by
    rw [← Piece.opensComment_iff, ← commentAt_eq, hcomment]
    exact Bool.false_ne_true
  cases hround with
  | group hopen hclose =>
      obtain ⟨htext, hfits⟩ := group_of_find? hopen hclose
      exact ⟨_, htext, hnot, hfits, rfl⟩
  | brace hopen hnone =>
      refine ⟨.loneBrace, drop_of_getElem? hopen, hnot, ?_, rfl⟩
      show '}' ∉ (text.drop (place + 1)).tail
      rw [List.tail_drop]
      exact not_mem_of_find?_eq_none hnone
  | literal hplain =>
      refine ⟨.literal (text.extract place (runEnd Piece.isPlain text place)),
        drop_eq_extract_append Piece.isPlain text place, hnot, ?_, rfl⟩
      refine ⟨extract_ne_nil hlt hle, Piece.forall_isPlain_iff.mp forall_mem_extract_runEnd, ?_⟩
      rw [List.head?_drop]
      exact fun c hc => Piece.not_isPlain_iff.mp (inRun_runEnd c hc)

/-- The loop is over at the end of the text and at a comment only. -/
theorem ends_of_round? (h : round? text place = none) :
    text.drop place = [] ∨ Piece.IsComment (text.drop place) := by
  rw [List.drop_eq_nil_iff, ← Piece.opensComment_iff, ← commentAt_eq]
  unfold round? at h
  split at h
  · assumption
  split at h
  · split at h <;> cases h
  · cases h

/-- A round is what cutting does there: it takes the next piece and goes on with the text after it. -/
theorem round?_eq (text : List Char) (place : Nat) :
    round? text place =
      (Piece.next? (text.drop place)).map fun (piece, rest) =>
        (piece.token?, text.length - rest.length) := by
  cases h : round? text place with
  | none =>
      rw [Piece.next?_eq_none_iff.mpr (ends_of_round? h)]
      rfl
  | some result =>
      obtain ⟨added, next⟩ := result
      obtain ⟨piece, htext, hcomment, hfits, rfl⟩ := exists_piece_of_round? h
      obtain ⟨-, hle⟩ := lt_and_le_of_round? h
      have hnext : text.length - (text.drop next).length = next := by
        rw [List.length_drop]
        omega
      rw [Piece.next?_eq_some_iff.mpr ⟨htext, hcomment, hfits⟩, Option.map_some]
      simp only [hnext]

/-! ## All rounds -/

/-- The rounds of the loop cut the text from the place on. -/
theorem Rounds.exists_cuts (h : Rounds text place places tokens) :
    ∃ pieces comment, Piece.Cuts (text.drop place) pieces comment ∧
      pieces.filterMap Piece.token? = tokens := by
  induction h with
  | ended h => exact ⟨[], _, .ends (ends_of_round? h), rfl⟩
  | round h _ ih =>
      obtain ⟨pieces, comment, hcuts, rfl⟩ := ih
      obtain ⟨piece, htext, hcomment, hfits, rfl⟩ := exists_piece_of_round? h
      rw [htext] at hcomment ⊢
      refine ⟨piece :: pieces, comment, .piece hcomment hfits hcuts, ?_⟩
      rw [List.filterMap_cons]
      cases piece.token? <;> rfl

/-- The loop over a line adds the tokens of the line. -/
theorem Rounds.tokens_eq {line : String} (h : Rounds line.toList 0 places tokens) :
    tokens = Token.scan line := by
  obtain ⟨pieces, comment, hcuts, rfl⟩ := h.exists_cuts
  rw [Token.scan, hcuts.eq_cut, List.drop_zero]

/-- The places of the rounds come one after the other, before the end of the text. -/
theorem Rounds.places_lt (h : Rounds text place places tokens) :
    (∀ later ∈ places, place ≤ later ∧ later < text.length) ∧ places.Pairwise (· < ·) := by
  induction h with
  | ended _ => exact ⟨nofun, .nil⟩
  | round h _ ih =>
      obtain ⟨hlt, hle⟩ := lt_and_le_of_round? h
      have hplace := Nat.lt_of_lt_of_le hlt hle
      obtain ⟨hlater, hsorted⟩ := ih
      constructor
      · intro later hmem
        rcases List.mem_cons.mp hmem with rfl | hmem
        · exact ⟨Nat.le_refl _, hplace⟩
        · exact ⟨Nat.le_trans (Nat.le_of_lt hlt) (hlater later hmem).1, (hlater later hmem).2⟩
      · exact List.pairwise_cons.mpr ⟨fun later hmem => Nat.lt_of_lt_of_le hlt (hlater later hmem).1,
          hsorted⟩

/-- From a place on there are at most as many rounds as characters. -/
theorem Rounds.length_le (h : Rounds text place places tokens) :
    places.length ≤ text.length - place := by
  induction h with
  | ended _ => exact Nat.zero_le _
  | round h _ ih =>
      obtain ⟨hlt, hle⟩ := lt_and_le_of_round? h
      rw [List.length_cons]
      omega

/-- There is just one way for the loop to go. -/
theorem Rounds.unique {places' : List Nat} {tokens' : List Token}
    (h : Rounds text place places tokens) (h' : Rounds text place places' tokens') :
    places' = places ∧ tokens' = tokens := by
  induction h generalizing places' tokens' with
  | ended hover =>
      cases h' with
      | ended _ => exact ⟨rfl, rfl⟩
      | round hround _ =>
          rw [hover] at hround
          cases hround
  | round hround _ ih =>
      cases h' with
      | ended hover =>
          rw [hover] at hround
          cases hround
      | round hround' hrest' =>
          obtain ⟨rfl, rfl⟩ := Prod.mk.inj (Option.some.inj (hround.symm.trans hround'))
          obtain ⟨rfl, rfl⟩ := ih hrest'
          exact ⟨rfl, rfl⟩

/-- The loop comes to an end, whatever the text is. -/
theorem exists_rounds (text : List Char) (place : Nat) :
    ∃ places tokens, Rounds text place places tokens := by
  cases hround : round? text place with
  | none => exact ⟨[], [], .ended hround⟩
  | some result =>
      obtain ⟨added, next⟩ := result
      obtain ⟨hlt, hle⟩ := lt_and_le_of_round? hround
      obtain ⟨places, tokens, hrest⟩ := exists_rounds text next
      exact ⟨place :: places, added.toList ++ tokens, .round hround hrest⟩
termination_by text.length - place

end Places

end Scanner

/-- The scanning of a line always goes on. A round takes the next piece, wherever it starts. Where no
comment starts and no brace stands there is no `#` either, so that the literal there has a character;
a group that is found is closed two places behind its opening brace or later; thus every round leads
to a later place, and what it adds is not empty. So the loop has an end: it finds the tokens of the
line, in one way only, in no more rounds than the line has characters. -/
theorem scanning_always_advances (line : String) :
    let text := line.toList
    (∀ place, Scanner.round? text place =
      (Piece.next? (text.drop place)).map fun (piece, rest) =>
        (piece.token?, text.length - rest.length)) ∧
    (∀ place < text.length, Scanner.commentAt text place = false → text[place]? ≠ some '{' →
      text[place]? ≠ some '#' ∧ place < Scanner.runEnd Piece.isPlain text place) ∧
    (∀ place fields next, Scanner.round? text place = some (some (.group fields), next) →
      ∃ close, next = close + 1 ∧ place + 2 ≤ close ∧ text[close]? = some '}' ∧
        '}' ∉ text.extract (place + 2) close) ∧
    (∀ place added next, Scanner.round? text place = some (added, next) →
      place < next ∧ next ≤ text.length ∧ ∀ token ∈ added, ¬token.IsEmpty) ∧
    ∃ places, Scanner.Rounds text 0 places (Token.scan line) ∧ places.Pairwise (· < ·) ∧
      places.length ≤ text.length ∧
      ∀ places' tokens, Scanner.Rounds text 0 places' tokens →
        places' = places ∧ tokens = Token.scan line := by
  intro text
  refine ⟨Scanner.round?_eq text, ?_, fun _ _ _ => Scanner.exists_close_of_round?, ?_, ?_⟩
  · intro place hplace hcomment hbrace
    have hplain := Scanner.isPlain_of_not_commentAt hplace hcomment hbrace
    refine ⟨?_, Scanner.lt_runEnd hplace hplain⟩
    rw [List.getElem?_eq_getElem hplace]
    exact fun hhash => (Piece.isPlain_iff.mp hplain).2 (Option.some.inj hhash)
  · intro place added next hround
    obtain ⟨hlt, hle⟩ := Scanner.lt_and_le_of_round? hround
    exact ⟨hlt, hle, Scanner.not_isEmpty_of_round? hround⟩
  · obtain ⟨places, tokens, hrounds⟩ := Scanner.exists_rounds text 0
    obtain rfl := hrounds.tokens_eq
    exact ⟨places, hrounds, hrounds.places_lt.2, hrounds.length_le,
      fun places' tokens hrounds' => hrounds.unique hrounds'⟩

end Walkthrough

import Walkthrough.Proofs.Travel.Rules
import Walkthrough.Run.Compile

/-!
# Walks

To the traveller a run is nothing but groups that are attempted one after the other: literals,
lines, documents and routes do not matter. A walk keeps, for each group, where it was attempted and
what became of it.

* `walk` — the walk along groups;
* `Happened` — what the accepted groups of a walk have done, with `walk_history`: a fact that comes
  true by one kind of event and by no other is a record of these events, and with `walk_keeps`: what
  only such events can change stays as it is without them;
* `compile_progress_eq_walk` — compiling documents leads where the walk along their groups leads;
* `Reached` — what runs of single groups and of whole documents can reach, with `Reached.invariant`:
  what holds at the start and is kept by every rule holds wherever a run leads;
* `refused_groups_leave_no_trace` — a refused group changes nothing, so a walk without its refused
  groups is the same walk.
-/

namespace Walkthrough

open Walkthrough.Text (Letters)

/-! ## Walking along groups -/

/-- What became of a group, without the progress. -/
def Outcome.verdict : Outcome → Except Refusal Accepted
  | .ok done _ => .ok done
  | .error cause _ => .error cause

/-- One group of a walk. -/
structure Turn where
  /-- The progress that the group was attempted in. -/
  here : Progress
  fields : List String
  verdict : Except Refusal Accepted

/-- Whether the group was accepted. -/
def Turn.isAccepted (turn : Turn) : Bool := turn.verdict.isOk

/-- What became of groups that were attempted one after the other. -/
structure Walk where
  turns : List Turn
  progress : Progress

/-- The turns whose groups were accepted. -/
def Walk.kept (w : Walk) : List Turn := w.turns.filter Turn.isAccepted

/-- The walk along groups. -/
def walk (guide : Guide) (here : Progress) : List (List String) → Walk
  | [] => ⟨[], here⟩
  | fields :: groups =>
    let outcome := attempt guide here fields
    let rest := walk guide outcome.progress groups
    ⟨⟨here, fields, outcome.verdict⟩ :: rest.turns, rest.progress⟩

variable {guide : Guide} {here start after : Progress} {fields : List String}

theorem walk_cons (groups : List (List String)) :
    walk guide here (fields :: groups) =
      ⟨⟨here, fields, (attempt guide here fields).verdict⟩ ::
          (walk guide (attempt guide here fields).progress groups).turns,
        (walk guide (attempt guide here fields).progress groups).progress⟩ := rfl

theorem walk_append (groups more : List (List String)) :
    walk guide here (groups ++ more) =
      ⟨(walk guide here groups).turns ++
          (walk guide (walk guide here groups).progress more).turns,
        (walk guide (walk guide here groups).progress more).progress⟩ := by
  induction groups generalizing here with
  | nil => rfl
  | cons fields groups ih =>
      rw [List.cons_append, walk_cons, walk_cons, ih]
      rfl

/-- A walk has one turn for each group. -/
theorem map_fields_turns (groups : List (List String)) :
    (walk guide here groups).turns.map Turn.fields = groups := by
  induction groups generalizing here with
  | nil => rfl
  | cons fields groups ih => rw [walk_cons, List.map_cons, ih]

/-- The rules say all that a group can do to the progress. -/
theorem progress_attempt (guide : Guide) (here : Progress) (fields : List String) :
    (attempt guide here fields).progress = here ∨
      ∃ done, Does guide here fields done (attempt guide here fields).progress := by
  rcases settled guide here fields with ⟨done, after, hdoes⟩ | ⟨cause, herror⟩
  · right
    rw [attempt_of_does hdoes]
    exact ⟨done, hdoes⟩
  · left
    rw [herror]
    rfl

/-- What every rule keeps is kept by a walk. -/
theorem walk_invariant {P : Progress → Prop}
    (hstep : ∀ {here fields done after}, P here → Does guide here fields done after → P after)
    (hstart : P here) (groups : List (List String)) : P (walk guide here groups).progress := by
  induction groups generalizing here with
  | nil => exact hstart
  | cons fields groups ih =>
      rw [walk_cons]
      apply ih
      rcases progress_attempt guide here fields with hsame | ⟨done, hdoes⟩
      · rw [hsame]; exact hstart
      · exact hstep hstart hdoes

/-! ## History -/

/-- Whether an accepted group of a walk was such an event, in the progress it was attempted in. -/
def Happened (event : Progress → List String → Prop) (turns : List Turn) : Prop :=
  ∃ turn ∈ turns, turn.isAccepted = true ∧ event turn.here turn.fields

theorem happened_cons {event : Progress → List String → Prop} {turn : Turn} {turns : List Turn} :
    Happened event (turn :: turns) ↔
      (turn.isAccepted = true ∧ event turn.here turn.fields) ∨ Happened event turns := by
  simp [Happened]

/-- What no group of a walk can be has not happened. -/
theorem not_happened_walk {event : Progress → List String → Prop} {groups : List (List String)}
    (h : ∀ fields ∈ groups, ∀ there, ¬event there fields) :
    ¬Happened event (walk guide here groups).turns := by
  rintro ⟨turn, hturn, -, hevent⟩
  have hfields : turn.fields ∈ groups := by
    rw [← @map_fields_turns guide here groups]
    exact List.mem_map_of_mem hturn
  exact h turn.fields hfields turn.here hevent

/-- What comes true by one kind of event only, and stays true, holds after a walk if it held at its
start or such an event has happened. -/
theorem walk_history {P : Progress → Prop} {event : Progress → List String → Prop}
    (hstep : ∀ {here fields done after}, Does guide here fields done after →
      (P after ↔ P here ∨ event here fields)) (groups : List (List String)) :
    P (walk guide here groups).progress ↔
      P here ∨ Happened event (walk guide here groups).turns := by
  induction groups generalizing here with
  | nil => exact (or_iff_left fun ⟨_, hturn, _⟩ => nomatch hturn).symm
  | cons fields groups ih =>
      rw [walk_cons, ih, happened_cons, ← or_assoc]
      apply or_congr_left
      rcases settled guide here fields with ⟨done, after, hdoes⟩ | ⟨cause, herror⟩
      · rw [attempt_of_does hdoes]
        have haccepted : (Turn.mk here fields (.ok done)).isAccepted = true := rfl
        exact (hstep hdoes).trans (or_congr_right (and_iff_right haccepted).symm)
      · rw [herror]
        exact (or_iff_left fun ⟨haccepted, _⟩ => nomatch haccepted).symm

/-- What only one kind of event can change is the same after a walk in which no such event has
happened. -/
theorem walk_keeps {α : Type} {view : Progress → α} {event : Progress → List String → Prop}
    (hstep : ∀ {here fields done after}, Does guide here fields done after →
      event here fields ∨ view after = view here) (groups : List (List String))
    (hnever : ¬Happened event (walk guide here groups).turns) :
    view (walk guide here groups).progress = view here := by
  induction groups generalizing here with
  | nil => rfl
  | cons fields groups ih =>
      rw [walk_cons, happened_cons, not_or] at hnever
      obtain ⟨hfirst, hrest⟩ := hnever
      rw [walk_cons, ih hrest]
      rcases settled guide here fields with ⟨done, after, hdoes⟩ | ⟨cause, herror⟩
      · rw [attempt_of_does hdoes] at hfirst ⊢
        rcases hstep hdoes with hevent | hsame
        · exact absurd ⟨rfl, hevent⟩ hfirst
        · exact hsame
      · rw [herror]
        rfl

/-! ## Documents -/

/-- The fields of a token that is a group. -/
def Token.fields? : Token → Option (List String)
  | .literal _ => none
  | .group fields => some fields

theorem filterMap_fields?_group (fields : List String) (tokens : List Token) :
    (Token.group fields :: tokens).filterMap Token.fields? =
      fields :: tokens.filterMap Token.fields? := rfl

/-- The groups of a line; a blank line has none. -/
def groupsOfLine (line : String) : List (List String) :=
  if Text.allBlank line.toList then [] else (Token.scan line).filterMap Token.fields?

/-- The groups of a document, line by line. -/
def groupsOfDocument (document : String) : List (List String) :=
  (Text.lines document).flatMap groupsOfLine

theorem follow_progress_eq_walk (tokens : List Token) :
    (follow guide here tokens).progress =
      (walk guide here (tokens.filterMap Token.fields?)).progress := by
  induction tokens generalizing here with
  | nil => rfl
  | cons token tokens ih =>
      cases token with
      | literal text => exact ih
      | group fields =>
          rw [filterMap_fields?_group, walk_cons, follow]
          cases attempt guide here fields with
          | ok done after => exact ih
          | error cause after => exact ih

theorem compileLines_progress_eq_walk (lines : List String) :
    (compileLines guide here lines).progress =
      (walk guide here (lines.flatMap groupsOfLine)).progress := by
  induction lines generalizing here with
  | nil => rfl
  | cons line lines ih =>
      rw [compileLines, List.flatMap_cons, walk_append]
      by_cases hblank : Text.allBlank line.toList = true
      · rw [if_pos hblank, groupsOfLine, if_pos hblank]
        exact ih
      · rw [if_neg hblank, groupsOfLine, if_neg hblank]
        simp only [followLine, follow_progress_eq_walk]
        exact ih

theorem compileDocuments_progress_eq_walk (documents : List String) :
    (compileDocuments guide here documents).progress =
      (walk guide here (documents.flatMap groupsOfDocument)).progress := by
  induction documents generalizing here with
  | nil => rfl
  | cons document documents ih =>
      rw [compileDocuments, List.flatMap_cons, walk_append]
      simp only [compileDocument, compileLines_progress_eq_walk]
      exact ih

/-- Compiling documents leads where the walk along their groups leads. -/
theorem compile_progress_eq_walk (guide : Guide) (here : Progress) (documents : List String) :
    (compile guide here documents).progress =
      (walk guide here (documents.flatMap groupsOfDocument)).progress :=
  compileDocuments_progress_eq_walk documents

/-! ## What can be reached -/

/-- `Reached guide start here`: single groups and whole documents, in any number and order, lead
from `start` to `here`. -/
inductive Reached (guide : Guide) (start : Progress) : Progress → Prop
  | start : Reached guide start start
  | attempt {here : Progress} (fields : List String) : Reached guide start here →
      Reached guide start (attempt guide here fields).progress
  | compile {here : Progress} (documents : List String) : Reached guide start here →
      Reached guide start (compile guide here documents).progress

/-- What holds at the start and is kept by every rule holds wherever a run leads. -/
theorem Reached.invariant {P : Progress → Prop}
    (hstep : ∀ {here fields done after}, P here → Does guide here fields done after → P after)
    (hstart : P start) (hreach : Reached guide start here) : P here := by
  induction hreach with
  | start => exact hstart
  | attempt fields _ ih => exact walk_invariant hstep ih [fields]
  | compile documents _ ih =>
      rw [compile_progress_eq_walk]
      exact walk_invariant hstep ih _

/-! ## Refused groups -/

/-- A refused group changes nothing: all eight fields of the progress are as before. And so a walk
along the accepted groups alone is the walk along all groups without the refused turns: every
accepted group is attempted in the same progress and yields the same action and the same gems, no
group is refused any more, and the end is the same. -/
theorem refused_groups_leave_no_trace (guide : Guide) :
    (∀ (here after : Progress) (fields : List String) (cause : Refusal),
      attempt guide here fields = .error cause after → after = here) ∧
    ∀ (here : Progress) (groups : List (List String)),
      (walk guide here groups).turns.map Turn.fields = groups ∧
        walk guide here ((walk guide here groups).kept.map Turn.fields) =
          ⟨(walk guide here groups).kept, (walk guide here groups).progress⟩ ∧
        ∀ turn ∈ (walk guide here groups).kept, ∃ done, turn.verdict = .ok done := by
  refine ⟨fun here after fields cause h => eq_of_attempt_eq_error h, ?_⟩
  intro here groups
  refine ⟨map_fields_turns groups, ?_, ?_⟩
  · induction groups generalizing here with
    | nil => rfl
    | cons fields groups ih =>
        rw [walk_cons]
        cases hout : attempt guide here fields with
        | ok done after =>
            have hkept : (Walk.mk (⟨here, fields, .ok done⟩ ::
                (walk guide after groups).turns) (walk guide after groups).progress).kept =
                ⟨here, fields, .ok done⟩ :: (walk guide after groups).kept := rfl
            simp only [Outcome.verdict, Outcome.progress]
            rw [hkept, List.map_cons, walk_cons, hout]
            simp only [Outcome.verdict, Outcome.progress, ih]
        | error cause after =>
            -- The progress is as it was, so the rest of the walk starts from here.
            rw [eq_of_attempt_eq_error hout]
            exact ih here
  · intro turn hturn
    have hok : turn.verdict.isOk = true := (List.mem_filter.mp hturn).2
    cases hv : turn.verdict with
    | ok done => exact ⟨done, rfl⟩
    | error cause => rw [hv] at hok; cases hok

theorem refused_ascent_leaves_no_trace :
    let guide := Guide.of ⟨[], [], []⟩ none "maze"
    let here := Progress.start "shore" "hamlet"
    let w := walk guide here [["ascend"], ["kill", "hermit"]]
    attempt guide here ["ascend"] =
        .error (.notInLabyrinth "maze" "shore") (attempt guide here ["ascend"]).progress ∧
      (attempt guide here ["ascend"]).progress = here ∧
      w.kept.map Turn.fields = [["kill", "hermit"]] ∧
      walk guide here [["kill", "hermit"]] = ⟨w.kept, w.progress⟩ := by
  intro guide here w
  obtain ⟨hsame, hwalk⟩ := refused_groups_leave_no_trace guide
  have herror : attempt guide here ["ascend"] =
      .error (.notInLabyrinth "maze" "shore") (attempt guide here ["ascend"]).progress := rfl
  exact ⟨herror, hsame here _ ["ascend"] _ herror, rfl,
    (hwalk here [["ascend"], ["kill", "hermit"]]).2.1⟩

end Walkthrough

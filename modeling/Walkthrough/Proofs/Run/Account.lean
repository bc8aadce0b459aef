import Walkthrough.Proofs.Route.Image
import Walkthrough.Proofs.Travel.Walk

/-!
# Nothing gets lost

Compiling documents takes every group of every line up once, in the order of the text. What was
accepted is found in the routes, what was refused among the diagnostics, and the literals stay where
they are.

* `Renders` — what a line shows, token by token;
* `Accounted` — all that following a line owes to its tokens, with `accounted_followLine`;
* `Visit`, `visitDocuments` — the lines of documents in turn, each with the progress it was met in;
* `compile_accounts_for_every_token` — a run is its lines, each is accounted for, and the groups are
  as many as the actions and the refusals together.
-/

namespace Walkthrough

open Walkthrough.Text

/-! ## Tokens, turns and parts -/

def Token.text? : Token → Option String
  | .literal text => some text
  | .group _ => none

def Part.text? : Part → Option String
  | .text words => some words
  | .action _ => none

def Part.action? : Part → Option Action
  | .text _ => none
  | .action done => some done

/-- The actions that a step shows. -/
def Step.actions : Step → List Action
  | .line parts => parts.filterMap Part.action?
  | .reward _ => []

/-- The action of an accepted group. -/
def Turn.action? (turn : Turn) : Option Action :=
  match turn.verdict with
  | .ok done => some done.action
  | .error _ => none

/-- The gems that a group yields. -/
def Turn.rewards (turn : Turn) : List Reward :=
  match turn.verdict with
  | .ok done => done.rewards
  | .error _ => []

/-- A refused group with its cause. -/
def Turn.refusal? (turn : Turn) : Option (List String × Refusal) :=
  match turn.verdict with
  | .ok _ => none
  | .error cause => some (turn.fields, cause)

variable {guide : Guide} {here : Progress}

/-- A group is accepted or refused, and not both. -/
theorem length_actions_add_length_refusals (turns : List Turn) :
    (turns.filterMap Turn.action?).length + (turns.filterMap Turn.refusal?).length =
      turns.length := by
  induction turns with
  | nil => rfl
  | cons turn turns ih =>
      unfold Turn.action? Turn.refusal? at *
      cases hturn : turn.verdict with
      | ok done => simp only [List.filterMap_cons, hturn, List.length_cons]; omega
      | error cause => simp only [List.filterMap_cons, hturn, List.length_cons]; omega

theorem Turn.isAccepted_eq_false_iff (turn : Turn) :
    turn.isAccepted = false ↔ turn.action? = none := by
  unfold Turn.isAccepted Turn.action?
  cases turn.verdict with
  | ok done => exact iff_of_false nofun nofun
  | error cause => exact iff_of_true rfl rfl

/-- The verdict of a turn is what became of its group where it was attempted. -/
theorem verdict_of_mem_walk {groups : List (List String)} {turn : Turn}
    (h : turn ∈ (walk guide here groups).turns) :
    turn.verdict = (attempt guide turn.here turn.fields).verdict := by
  induction groups generalizing here with
  | nil => exact absurd h List.not_mem_nil
  | cons fields groups ih =>
      rw [walk_cons] at h
      rcases List.mem_cons.mp h with rfl | hrest
      · rfl
      · exact ih hrest

theorem head?_fields_of_mem_walk {groups : List (List String)} {turn : Turn} {action : Action}
    (h : turn ∈ (walk guide here groups).turns) (haction : turn.action? = some action) :
    turn.fields.head? = some action.verb.name := by
  have hverdict := verdict_of_mem_walk h
  cases hattempt : attempt guide turn.here turn.fields with
  | error cause after =>
      rw [Turn.action?, hverdict, hattempt] at haction
      cases haction
  | ok done after =>
      rw [Turn.action?, hverdict, hattempt] at haction
      cases haction
      exact (attempt_eq_ok_iff.mp hattempt).head?_fields

/-! ## What a line shows -/

/-- `Renders tokens turns parts`: the line of the tokens shows the parts, if the turns of its groups
are these. A literal stays in its place, an accepted group leaves its action there, and a refused
one leaves nothing. -/
inductive Renders : List Token → List Turn → List Part → Prop
  | nil : Renders [] [] []
  | literal {tokens : List Token} {turns : List Turn} {parts : List Part} (text : String) :
      Renders tokens turns parts → Renders (.literal text :: tokens) turns (.text text :: parts)
  | accepted {tokens : List Token} {turns : List Turn} {parts : List Part} {turn : Turn}
      {action : Action} : turn.action? = some action → Renders tokens turns parts →
      Renders (.group turn.fields :: tokens) (turn :: turns) (.action action :: parts)
  | refused {tokens : List Token} {turns : List Turn} {parts : List Part} {turn : Turn} :
      turn.action? = none → Renders tokens turns parts →
      Renders (.group turn.fields :: tokens) (turn :: turns) parts

/-- No group was accepted, and all literals are blank. -/
def ShowsNothing (tokens : List Token) (turns : List Turn) : Prop :=
  (∀ turn ∈ turns, turn.isAccepted = false) ∧
    ∀ text, .literal text ∈ tokens → allBlank text.toList = true

theorem hasContent_eq_false_iff {parts : List Part} :
    hasContent parts = false ↔
      parts.filterMap Part.action? = [] ∧
        ∀ text ∈ parts.filterMap Part.text?, allBlank text.toList = true := by
  induction parts with
  | nil => exact iff_of_true rfl ⟨rfl, nofun⟩
  | cons part parts ih =>
      rw [hasContent, List.any_cons, Bool.or_eq_false_iff, ← hasContent, ih]
      cases part with
      | action done => exact iff_of_false (fun h => nomatch h.1) (fun h => nomatch h.1)
      | text words =>
          rw [show (Part.text words :: parts).filterMap Part.text? =
            words :: parts.filterMap Part.text? from rfl, List.forall_mem_cons]
          rw [show (Part.text words :: parts).filterMap Part.action? =
            parts.filterMap Part.action? from rfl, Part.isShown, Bool.not_eq_false']
          exact and_left_comm

namespace Renders

variable {tokens : List Token} {turns : List Turn} {parts : List Part}

/-- There is one turn for each group. -/
theorem fields_eq (h : Renders tokens turns parts) :
    turns.map Turn.fields = tokens.filterMap Token.fields? := by
  induction h with
  | nil => rfl
  | literal text _ ih => exact ih
  | accepted _ _ ih | refused _ _ ih => exact congrArg (List.cons _) ih

/-- The texts that a line shows are its literals. -/
theorem texts_eq (h : Renders tokens turns parts) :
    parts.filterMap Part.text? = tokens.filterMap Token.text? := by
  induction h with
  | nil => rfl
  | literal text _ ih => exact congrArg (List.cons text) ih
  | accepted _ _ ih | refused _ _ ih => exact ih

/-- The actions that a line shows are those of its accepted groups. -/
theorem actions_eq (h : Renders tokens turns parts) :
    parts.filterMap Part.action? = turns.filterMap Turn.action? := by
  induction h with
  | nil => rfl
  | literal text _ ih => exact ih
  | @accepted _ _ _ turn action hturn _ ih =>
      rw [List.filterMap_cons_some hturn, ← ih]
      rfl
  | refused hturn _ ih => rw [List.filterMap_cons_none hturn, ih]

/-- A line shows nothing exactly if no group was accepted and all literals are blank. -/
theorem hasContent_eq_false_iff (h : Renders tokens turns parts) :
    hasContent parts = false ↔ ShowsNothing tokens turns := by
  rw [Walkthrough.hasContent_eq_false_iff, h.actions_eq, h.texts_eq, List.filterMap_eq_nil_iff]
  refine and_congr (forall₂_congr fun turn _ => turn.isAccepted_eq_false_iff.symm) ?_
  refine forall_congr' fun text => imp_congr_left ?_
  rw [List.mem_filterMap]
  constructor
  · rintro ⟨token, htoken, htext⟩
    cases token with
    | literal word => cases htext; exact htoken
    | group fields => cases htext
  · exact fun htoken => ⟨_, htoken, rfl⟩

end Renders

theorem renders_follow (tokens : List Token) :
    Renders tokens (walk guide here (tokens.filterMap Token.fields?)).turns
      (follow guide here tokens).parts := by
  -- For every progress at once, since a group is met where the groups before it have led to.
  induction tokens generalizing here with
  | nil => exact .nil
  | cons token tokens ih =>
      cases token with
      | literal text => exact .literal text ih
      | group fields =>
          rw [filterMap_fields?_group, walk_cons, follow]
          cases hattempt : attempt guide here fields with
          | ok done after =>
              exact @Renders.accepted _ _ _ ⟨here, fields, .ok done⟩ _ rfl ih
          | error cause after =>
              exact @Renders.refused _ _ _ ⟨here, fields, .error cause⟩ rfl ih

/-- The gems and the refused groups of a line are those of its turns. -/
theorem follow_yields (tokens : List Token) :
    (follow guide here tokens).rewards =
        (walk guide here (tokens.filterMap Token.fields?)).turns.flatMap Turn.rewards ∧
      (follow guide here tokens).refusals =
        (walk guide here (tokens.filterMap Token.fields?)).turns.filterMap Turn.refusal? := by
  induction tokens generalizing here with
  | nil => exact ⟨rfl, rfl⟩
  | cons token tokens ih =>
      cases token with
      | literal text => exact ih
      | group fields =>
          rw [filterMap_fields?_group, walk_cons, follow]
          cases attempt guide here fields with
          | ok done after =>
              obtain ⟨hrewards, hrefusals⟩ := @ih after
              exact ⟨congrArg (done.rewards ++ ·) hrewards, hrefusals⟩
          | error cause after =>
              obtain ⟨hrewards, hrefusals⟩ := @ih after
              exact ⟨hrewards, congrArg (List.cons (fields, cause)) hrefusals⟩

theorem Token.eq_group_of_fields? {token : Token} {fields : List String}
    (h : token.fields? = some fields) : token = .group fields := by
  cases token with
  | literal text => cases h
  | group _ => cases h; rfl

theorem fields_of_refusal? {turn : Turn} {fields : List String} {cause : Refusal}
    (h : turn.refusal? = some (fields, cause)) : turn.fields = fields := by
  unfold Turn.refusal? at h
  cases hverdict : turn.verdict with
  | ok done => rw [hverdict] at h; cases h
  | error other => rw [hverdict] at h; cases h; rfl

/-- A group of a line is the only token of what is written for it. -/
theorem scan_groupText {line : String} {fields : List String}
    (h : Token.group fields ∈ Token.scan line) (cause : Refusal) :
    Token.scan (Diagnostic.refused fields cause).groupText = [.group fields] := by
  have hline : writeLine [.group fields] = Token.writeFields fields := List.append_nil _
  rw [Diagnostic.groupText, ← hline]
  exact scan_writeLine (List.forall_mem_singleton.mpr (Token.isScanned_of_mem_scan h)) trivial

/-! ## A line -/

/-- What following a line owes to its tokens, if the turns of its groups are these. -/
structure Accounted (tokens : List Token) (turns : List Turn) (trail : Trail) : Prop where
  /-- Each group has its turn. -/
  groups : turns.map Turn.fields = tokens.filterMap Token.fields?
  /-- Literals and actions are shown in their places. -/
  renders : Renders tokens turns trail.parts
  texts : trail.parts.filterMap Part.text? = tokens.filterMap Token.text?
  actions : trail.parts.filterMap Part.action? = turns.filterMap Turn.action?
  /-- An accepted group does what its verb says. -/
  verbs : ∀ turn ∈ turns, ∀ action, turn.action? = some action →
    turn.fields.head? = some action.verb.name
  refusals : trail.refusals = turns.filterMap Turn.refusal?
  /-- A refused group is reported in a way that it can be read again from. -/
  reported : ∀ fields cause, (fields, cause) ∈ trail.refusals →
    Token.scan (Diagnostic.refused fields cause).groupText = [.group fields]
  shown : ¬ShowsNothing tokens turns →
    trail.steps = .line trail.parts :: trail.rewards.map .reward
  absent : ShowsNothing tokens turns → trail.steps = []

/-- A line that shows nothing has no accepted group and so leads to no gems. -/
theorem steps_of_showsNothing {tokens : List Token} {turns : List Turn} {trail : Trail}
    (hrenders : Renders tokens turns trail.parts)
    (hrewards : trail.rewards = turns.flatMap Turn.rewards) (h : ShowsNothing tokens turns) :
    trail.steps = [] := by
  have hnone : trail.rewards = [] := by
    rw [hrewards, List.flatMap_eq_nil_iff]
    intro turn hturn
    have hrefused := h.1 turn hturn
    unfold Turn.isAccepted at hrefused
    unfold Turn.rewards
    cases hverdict : turn.verdict with
    | ok done => rw [hverdict] at hrefused; cases hrefused
    | error cause => rfl
  rw [Trail.steps, hrenders.hasContent_eq_false_iff.mpr h, hnone]
  rfl

/-- The turns of the groups of a line. -/
def turnsOfLine (guide : Guide) (here : Progress) (line : String) : List Turn :=
  (walk guide here ((Token.scan line).filterMap Token.fields?)).turns

theorem accounted_followLine (guide : Guide) (here : Progress) (line : String) :
    Accounted (Token.scan line) (turnsOfLine guide here line) (followLine guide here line) := by
  have hrenders : Renders (Token.scan line) (turnsOfLine guide here line)
      (followLine guide here line).parts := renders_follow (Token.scan line)
  have hrefusals : (followLine guide here line).refusals =
      (turnsOfLine guide here line).filterMap Turn.refusal? := (follow_yields (Token.scan line)).2
  refine ⟨hrenders.fields_eq, hrenders, hrenders.texts_eq, hrenders.actions_eq, ?_, hrefusals, ?_,
    ?_, ?_⟩
  · exact fun turn hturn action haction => head?_fields_of_mem_walk hturn haction
  · intro fields cause hmem
    rw [hrefusals] at hmem
    obtain ⟨turn, hturn, hrefusal⟩ := List.mem_filterMap.mp hmem
    have hfields : turn.fields ∈ (Token.scan line).filterMap Token.fields? :=
      hrenders.fields_eq ▸ List.mem_map_of_mem hturn
    obtain ⟨token, htoken, hgroup⟩ := List.mem_filterMap.mp hfields
    rw [Token.eq_group_of_fields? hgroup, fields_of_refusal? hrefusal] at htoken
    exact scan_groupText htoken cause
  · intro hshown
    have hcontent : hasContent (followLine guide here line).parts = true := by
      rw [← Bool.not_eq_false, hrenders.hasContent_eq_false_iff]
      exact hshown
    rw [Trail.steps, hcontent]
    rfl
  · exact steps_of_showsNothing hrenders (follow_yields (Token.scan line)).1

/-! ## Lines in turn -/

/-- A line that is not blank, and the progress it is met in. -/
structure Visit where
  line : String
  here : Progress

namespace Visit

variable (guide : Guide) (visit : Visit)

def tokens : List Token := Token.scan visit.line

def turns : List Turn := turnsOfLine guide visit.here visit.line

def trail : Trail := followLine guide visit.here visit.line

end Visit

/-- The lines that are not blank, in turn. -/
def visitLines (guide : Guide) (here : Progress) : List String → List Visit
  | [] => []
  | line :: lines =>
    if allBlank line.toList then visitLines guide here lines
    else ⟨line, here⟩ :: visitLines guide (followLine guide here line).progress lines

/-- The lines of documents that are not blank, document by document. -/
def visitDocuments (guide : Guide) (here : Progress) : List String → List (List Visit)
  | [] => []
  | document :: documents =>
    visitLines guide here (Text.lines document) ::
      visitDocuments guide (compileDocument guide here document).progress documents

/-- The groups of a line, be it blank or not. -/
theorem groupsOfLine_eq (line : String) :
    groupsOfLine line = (Token.scan line).filterMap Token.fields? := by
  unfold groupsOfLine
  by_cases hblank : allBlank line.toList = true
  · rw [if_pos hblank, eq_comm, List.filterMap_eq_nil_iff]
    -- A blank line has no brace that could close a group.
    have hbrace : '}' ∉ line.toList := by
      intro hmem
      exact absurd (List.all_eq_true.mp hblank '}' hmem) (by decide)
    obtain ⟨comment, hcuts⟩ := Piece.exists_cuts_cut line.toList
    intro token htoken
    obtain ⟨text, rfl, -⟩ := lacksBrace_iff.mp (hcuts.lacksBrace hbrace token htoken)
    rfl
  · rw [if_neg hblank]

theorem map_line_visitLines (lines : List String) :
    (visitLines guide here lines).map Visit.line =
      lines.filter fun line => !allBlank line.toList := by
  induction lines generalizing here with
  | nil => rfl
  | cons line lines ih =>
      rw [visitLines]
      by_cases hblank : allBlank line.toList = true
      · rw [if_pos hblank, ih, List.filter_cons_of_neg (by simp [hblank])]
      · rw [if_neg hblank, List.map_cons, ih, List.filter_cons_of_pos (by simpa using hblank)]

/-- Compiling lines yields what following each of them yields. -/
theorem compileLines_yields (lines : List String) :
    (compileLines guide here lines).steps =
        ((visitLines guide here lines).flatMap fun visit => (visit.trail guide).steps) ∧
      (compileLines guide here lines).refusals =
        (visitLines guide here lines).flatMap fun visit => (visit.trail guide).refusals := by
  induction lines generalizing here with
  | nil => exact ⟨rfl, rfl⟩
  | cons line lines ih =>
      rw [compileLines, visitLines]
      by_cases hblank : allBlank line.toList = true
      · rw [if_pos hblank, if_pos hblank]
        exact ih
      · rw [if_neg hblank, if_neg hblank, List.flatMap_cons, List.flatMap_cons, ← ih.1, ← ih.2]
        exact ⟨rfl, rfl⟩

/-- The walk along lines is the walks along the single lines, one after the other. -/
theorem turns_visitLines (lines : List String) :
    (visitLines guide here lines).flatMap (Visit.turns guide) =
      (walk guide here (lines.flatMap groupsOfLine)).turns := by
  induction lines generalizing here with
  | nil => rfl
  | cons line lines ih =>
      rw [visitLines, List.flatMap_cons, walk_append]
      by_cases hblank : allBlank line.toList = true
      · rw [if_pos hblank, ih, groupsOfLine, if_pos hblank]
        rfl
      · rw [if_neg hblank, List.flatMap_cons, ih, groupsOfLine_eq, followLine,
          follow_progress_eq_walk]
        rfl

/-- Compiling documents yields what following their lines yields, a route for each of them. -/
theorem compileDocuments_yields (documents : List String) :
    (compileDocuments guide here documents).routes =
        ((visitDocuments guide here documents).map fun visits =>
          visits.flatMap fun visit => (visit.trail guide).steps) ∧
      (compileDocuments guide here documents).refusals =
        (visitDocuments guide here documents).flatten.flatMap fun visit =>
          (visit.trail guide).refusals := by
  induction documents generalizing here with
  | nil => exact ⟨rfl, rfl⟩
  | cons document documents ih =>
      obtain ⟨hsteps, hrefusals⟩ := @compileLines_yields guide here (Text.lines document)
      rw [compileDocuments, visitDocuments, List.map_cons, List.flatten_cons,
        List.flatMap_append, ← ih.1, ← ih.2, ← hsteps, ← hrefusals]
      exact ⟨rfl, rfl⟩

theorem turns_visitDocuments (documents : List String) :
    (visitDocuments guide here documents).flatten.flatMap (Visit.turns guide) =
      (walk guide here (documents.flatMap groupsOfDocument)).turns := by
  induction documents generalizing here with
  | nil => rfl
  | cons document documents ih =>
      rw [visitDocuments, List.flatten_cons, List.flatMap_append, ih, turns_visitLines,
        List.flatMap_cons, walk_append, compileDocument, compileLines_progress_eq_walk]
      rfl

theorem map_line_visitDocuments (documents : List String) :
    (visitDocuments guide here documents).map (List.map Visit.line) =
      documents.map fun document =>
        (Text.lines document).filter fun line => !allBlank line.toList := by
  induction documents generalizing here with
  | nil => rfl
  | cons document documents ih =>
      rw [visitDocuments, List.map_cons, List.map_cons, ih, map_line_visitLines]

theorem flatMap_groupsOfDocument (documents : List String) :
    documents.flatMap groupsOfDocument =
      (documents.flatMap Text.lines).flatMap fun line =>
        (Token.scan line).filterMap Token.fields? := by
  have hline : groupsOfLine = fun line => (Token.scan line).filterMap Token.fields? :=
    funext groupsOfLine_eq
  rw [List.flatMap_assoc, ← hline]
  rfl

/-! ## The account of a run -/

/-- The actions in the steps of a line are those of its accepted groups. -/
theorem Accounted.actions_steps {tokens : List Token} {turns : List Turn} {trail : Trail}
    (h : Accounted tokens turns trail) :
    trail.steps.flatMap Step.actions = turns.filterMap Turn.action? := by
  have hrewards : (trail.rewards.map Step.reward).flatMap Step.actions = [] := by
    rw [List.flatMap_map, List.flatMap_eq_nil_iff]
    exact fun _ _ => rfl
  by_cases hnothing : ShowsNothing tokens turns
  · rw [h.absent hnothing, eq_comm, List.flatMap_nil, List.filterMap_eq_nil_iff]
    exact fun turn hturn => turn.isAccepted_eq_false_iff.mp (hnothing.1 turn hturn)
  · rw [h.shown hnothing, List.flatMap_cons, hrewards, List.append_nil]
    exact h.actions

/-- The routes together are what the lines lead to, in turn. -/
theorem flatten_routes (documents : List String) :
    (compileDocuments guide here documents).routes.flatten =
      (visitDocuments guide here documents).flatten.flatMap fun visit =>
        (visit.trail guide).steps := by
  rw [(compileDocuments_yields documents).1]
  simp only [List.flatten_eq_flatMap, List.flatMap_map, List.flatMap_assoc, id]

/-- The actions in the routes are those of the accepted groups, in turn. -/
theorem actions_compileDocuments (documents : List String) :
    (compileDocuments guide here documents).routes.flatten.flatMap Step.actions =
      (walk guide here (documents.flatMap groupsOfDocument)).turns.filterMap Turn.action? := by
  have hvisit : (fun visit => (visit.turns guide).filterMap Turn.action?) =
      fun visit : Visit => (visit.trail guide).steps.flatMap Step.actions :=
    funext fun visit => (accounted_followLine guide visit.here visit.line).actions_steps.symm
  rw [flatten_routes, ← turns_visitDocuments, List.filterMap_flatMap, hvisit, List.flatMap_assoc]

/-- The refused groups that are reported are those of the walk, in turn. -/
theorem refusals_eq_walk (documents : List String) :
    (compileDocuments guide here documents).refusals =
      (walk guide here (documents.flatMap groupsOfDocument)).turns.filterMap Turn.refusal? := by
  have hvisit : (fun visit => (visit.turns guide).filterMap Turn.refusal?) =
      fun visit : Visit => (visit.trail guide).refusals :=
    funext fun visit => (accounted_followLine guide visit.here visit.line).refusals.symm
  rw [(compileDocuments_yields documents).2, ← turns_visitDocuments, List.filterMap_flatMap, hvisit]

/-- The diagnostics about groups are those of the refused ones. -/
theorem filterMap_fields?_diagnostics (run : Compilation) :
    run.diagnostics.filterMap Diagnostic.fields? = run.refusals.map Prod.fst := by
  have hfound : (run.findings.map Diagnostic.found).filterMap Diagnostic.fields? = [] := by
    rw [List.filterMap_map, List.filterMap_eq_nil_iff]
    exact fun _ _ => rfl
  rw [Compilation.diagnostics, List.filterMap_append, hfound, List.append_nil, refusedDiagnostics,
    List.filterMap_map, ← List.filterMap_eq_map]
  rfl

/-- Nothing is lost, nothing invented and nothing put elsewhere. Each document becomes one route,
which is what its lines that are not blank lead to, in turn. Each of these lines is accounted for:
its groups are attempted in their order, where the groups before them have led to, and what was
accepted is shown between the literals while what was refused is reported. The refused groups are
reported in turn before anything else, and the actions of all routes and the refused groups are
together as many as the groups of all lines. -/
theorem compile_accounts_for_every_token (guide : Guide) (here : Progress)
    (documents : List String) :
    let run := compile guide here documents
    let visits := visitDocuments guide here documents
    let groups := (documents.flatMap Text.lines).flatMap fun line =>
      (Token.scan line).filterMap Token.fields?
    let turns := (walk guide here groups).turns
    run.routes.length = documents.length ∧
      (visits.map (List.map Visit.line) = documents.map fun document =>
        (Text.lines document).filter fun line => !allBlank line.toList) ∧
      (run.routes = visits.map fun lines =>
        lines.flatMap fun visit => (visit.trail guide).steps) ∧
      visits.flatten.flatMap (Visit.turns guide) = turns ∧
      (∀ visit ∈ visits.flatten,
        Accounted visit.tokens (visit.turns guide) (visit.trail guide)) ∧
      run.diagnostics = refusedDiagnostics (visits.flatten.flatMap fun visit =>
        (visit.trail guide).refusals) ++ run.findings.map .found ∧
      run.routes.flatten.flatMap Step.actions = turns.filterMap Turn.action? ∧
      run.diagnostics.filterMap Diagnostic.fields? =
        (turns.filterMap Turn.refusal?).map Prod.fst ∧
      groups.length = (run.routes.flatten.flatMap Step.actions).length +
        (run.diagnostics.filterMap Diagnostic.fields?).length := by
  intro run visits groups turns
  have hwalk : (walk guide here (documents.flatMap groupsOfDocument)).turns = turns := by
    rw [flatMap_groupsOfDocument]
  have hroutes : run.routes = visits.map fun lines =>
      lines.flatMap fun visit => (visit.trail guide).steps := (compileDocuments_yields documents).1
  have hlines : visits.map (List.map Visit.line) = documents.map fun document =>
      (Text.lines document).filter fun line => !allBlank line.toList :=
    map_line_visitDocuments documents
  have hturns : visits.flatten.flatMap (Visit.turns guide) = turns :=
    (turns_visitDocuments documents).trans hwalk
  have hactions : run.routes.flatten.flatMap Step.actions = turns.filterMap Turn.action? :=
    (actions_compileDocuments documents).trans (congrArg (List.filterMap Turn.action?) hwalk)
  have hrefusals : run.refusals = turns.filterMap Turn.refusal? :=
    (refusals_eq_walk documents).trans (congrArg (List.filterMap Turn.refusal?) hwalk)
  have hreported := filterMap_fields?_diagnostics run
  rw [hrefusals] at hreported
  refine ⟨?_, hlines, hroutes, hturns, ?_, ?_, hactions, hreported, ?_⟩
  · have hlength := congrArg List.length hlines
    rw [List.length_map, List.length_map] at hlength
    rw [hroutes, List.length_map, hlength]
  · exact fun visit _ => accounted_followLine guide visit.here visit.line
  · rw [Compilation.diagnostics, ← (compileDocuments_yields documents).2]
    rfl
  · have hfields : turns.map Turn.fields = groups := map_fields_turns groups
    rw [hactions, hreported, List.length_map, length_actions_add_length_refusals, ← hfields,
      List.length_map]

end Walkthrough

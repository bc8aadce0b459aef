import Walkthrough.Proofs.Run.Account
import Walkthrough.Proofs.Run.Record

/-!
# The log and the list

What is wrong with a walkthrough is told twice: in the log as it arises, and in the list of whoever
collects diagnostics. Both say the same in the same order, and a refused group is quoted in the log
just as it stands in its line.

* `Site`, `sitesOf` — the groups of a line, each where it stands, with `located_sitesOf`;
* `refusedSites` — those of them that a walk refused, each with its cause;
* `Refusal.kind_mem`, `Finding.kind_mem` — the kinds of diagnostics about groups, and of the others;
* `log_and_list_agree` — what a run adds to the log and to the list.
-/

namespace Walkthrough

open Walkthrough.Text

/-! ## Where groups stand -/

/-- A group where it stands in a line. -/
structure Site where
  before : List Char
  /-- What stands between the braces of the group. -/
  interior : List Char
  after : List Char

namespace Site

/-- The group as it stands in the line, with its braces. -/
def written (site : Site) : List Char := '{' :: site.interior ++ ['}']

def text (site : Site) : String := String.ofList site.written

def fields (site : Site) : List String := (split '|' site.interior).map String.ofList

/-- A group is quoted as it stands in the line. -/
theorem groupText_fields (site : Site) (cause : Refusal) :
    (Diagnostic.refused site.fields cause).groupText = site.text :=
  congrArg String.ofList (@Piece.written_of_token? (.group site.interior) _ rfl)

theorem logLine_refused (site : Site) (cause : Refusal) :
    (Diagnostic.refused site.fields cause).logLine =
      ⟨.warning, .compiler, cause.message ++ ": " ++ site.text⟩ := by
  rw [← site.groupText_fields cause]
  rfl

end Site

/-- The groups among pieces that stand, one after the other, between a text and a comment. -/
def sitesAmong (comment : List Char) : List Char → List Piece → List Site
  | _, [] => []
  | before, .group interior :: pieces =>
    ⟨before, interior, pieces.flatMap Piece.written ++ comment⟩ ::
      sitesAmong comment (before ++ Piece.written (.group interior)) pieces
  | before, piece :: pieces => sitesAmong comment (before ++ piece.written) pieces

/-- The groups of a line, from left to right. What its pieces leave is the comment. -/
def sitesOf (line : String) : List Site :=
  let pieces := Piece.cut line.toList
  sitesAmong (line.toList.drop (pieces.flatMap Piece.written).length) [] pieces

section Sites

variable {before comment : List Char} {pieces : List Piece} {site : Site}

theorem map_fields_sitesAmong :
    (sitesAmong comment before pieces).map Site.fields =
      (pieces.filterMap Piece.token?).filterMap Token.fields? := by
  fun_induction sitesAmong comment before pieces with
  | case1 => rfl
  | case2 before interior pieces ih => exact congrArg (List.cons _) ih
  | case3 before piece pieces hgroup ih =>
      cases piece with
      | group interior => exact absurd rfl (hgroup interior)
      | literal text => exact ih
      | loneBrace => exact ih

theorem text_eq_of_mem_sitesAmong (h : site ∈ sitesAmong comment before pieces) :
    site.before ++ site.written ++ site.after =
      before ++ pieces.flatMap Piece.written ++ comment := by
  fun_induction sitesAmong comment before pieces with
  | case1 => exact absurd h List.not_mem_nil
  | case2 before interior pieces ih =>
      rcases List.mem_cons.mp h with rfl | hrest
      · simp [Site.written, Piece.written]
      · rw [ih hrest, List.flatMap_cons, List.append_assoc before]
  | case3 before piece pieces hgroup ih =>
      rw [ih h, List.flatMap_cons, List.append_assoc before]

/-- What stands before the pieces stands before their groups. -/
theorem prefix_of_mem_sitesAmong (h : site ∈ sitesAmong comment before pieces) :
    before <+: site.before := by
  fun_induction sitesAmong comment before pieces with
  | case1 => exact absurd h List.not_mem_nil
  | case2 before interior pieces ih =>
      rcases List.mem_cons.mp h with rfl | hrest
      · exact List.prefix_rfl
      · exact (List.prefix_append _ _).trans (ih hrest)
  | case3 before piece pieces hgroup ih => exact (List.prefix_append _ _).trans (ih h)

theorem pairwise_sitesAmong :
    (sitesAmong comment before pieces).Pairwise fun site later =>
      (site.before ++ site.written) <+: later.before := by
  fun_induction sitesAmong comment before pieces with
  | case1 => exact .nil
  | case2 before interior pieces ih =>
      exact .cons (fun later hlater => prefix_of_mem_sitesAmong hlater) ih
  | case3 before piece pieces hgroup ih => exact ih

end Sites

/-- The groups of a line are at these places in it, from left to right. -/
structure Located (line : String) (sites : List Site) : Prop where
  groups : sites.map Site.fields = (Token.scan line).filterMap Token.fields?
  stands : ∀ site ∈ sites, site.before ++ site.written ++ site.after = line.toList
  /-- A group ends before the next one starts. -/
  inOrder : sites.Pairwise fun site later => (site.before ++ site.written) <+: later.before

theorem located_sitesOf (line : String) : Located line (sitesOf line) := by
  obtain ⟨comment, hcuts⟩ := Piece.exists_cuts_cut line.toList
  have hcomment : line.toList.drop ((Piece.cut line.toList).flatMap Piece.written).length =
      comment :=
    (congrArg (List.drop _) hcuts.text_eq).trans List.drop_left
  refine ⟨map_fields_sitesAmong, fun site hsite => ?_, pairwise_sitesAmong⟩
  have htext := text_eq_of_mem_sitesAmong hsite
  rw [hcomment, List.nil_append, ← hcuts.text_eq] at htext
  exact htext

theorem map_fields_flatMap_sitesOf (lines : List String) :
    (lines.flatMap sitesOf).map Site.fields =
      lines.flatMap fun line => (Token.scan line).filterMap Token.fields? := by
  rw [List.map_flatMap]
  exact congrArg lines.flatMap (funext fun line => (located_sitesOf line).groups)

/-! ## What is refused -/

/-- The groups that were refused in their turns, each where it stands and with its cause. -/
def refusedSites : List Site → List Turn → List (Site × Refusal)
  | site :: sites, turn :: turns =>
    match turn.verdict with
    | .ok _ => refusedSites sites turns
    | .error cause => (site, cause) :: refusedSites sites turns
  | _, _ => []

theorem map_refusedSites {sites : List Site} {turns : List Turn}
    (h : turns.map Turn.fields = sites.map Site.fields) :
    (refusedSites sites turns).map (fun (site, cause) => (site.fields, cause)) =
      turns.filterMap Turn.refusal? := by
  induction sites generalizing turns with
  | nil =>
      rw [List.map_nil, List.map_eq_nil_iff] at h
      rw [h]
      rfl
  | cons site sites ih =>
      cases turns with
      | nil => cases h
      | cons turn turns =>
          obtain ⟨hfields, hrest⟩ := List.cons.inj h
          rw [refusedSites, List.filterMap_cons, Turn.refusal?]
          cases turn.verdict with
          | ok done => exact ih hrest
          | error cause =>
              simp only [List.map_cons, hfields, ih hrest]

theorem Refusal.kind_mem (cause : Refusal) :
    cause.kind ∈ [.format, .unknownArea, .missingWaypoint, .semantic] := by
  cases cause <;> simp [kind]

theorem Finding.kind_mem (finding : Finding) :
    finding.kind ∈ [.unusedWaypoint, .missingCraftingArea] := by
  cases finding <;> simp [kind]

/-! ## Both channels -/

/-- A run adds the same to the log and to the list, in the same order. First there come the groups
that were refused where their turn was: a warning in the log, with the message and the group as it
stands in its line. Then there comes what was left undone: a message that is no warning. A
diagnostic with a group is about its format, an unknown area, a missing waypoint or its meaning, and
one without a group about an unused waypoint or a missing crafting area. -/
theorem log_and_list_agree (guide : Guide) (records : Records) (documents : List String) :
    let after := ((recordRun guide documents).run records).2
    let sites := (documents.flatMap Text.lines).flatMap sitesOf
    let turns := (walk guide records.progress (sites.map Site.fields)).turns
    let refused := refusedSites sites turns
    let left := findings guide.world after.progress
    let diagnostics := (refused.map fun (site, cause) => .refused site.fields cause) ++
      left.map .found
    (∀ line, Located line (sitesOf line)) ∧
      turns.map Turn.fields = sites.map Site.fields ∧
      after.collected = records.collected.map (· ++ diagnostics) ∧
      after.log = records.log ++
        (refused.map fun (site, cause) =>
          ⟨.warning, .compiler, cause.message ++ ": " ++ site.text⟩) ++
        left.map (fun finding => ⟨.info, .compiler, finding.message⟩) ∧
      (after.log = records.log ++ diagnostics.map fun diagnostic =>
        if diagnostic.fields?.isSome then
          ⟨.warning, .compiler, diagnostic.message ++ ": " ++ diagnostic.groupText⟩
        else ⟨.info, .compiler, diagnostic.message⟩) ∧
      ∀ diagnostic ∈ diagnostics,
        if diagnostic.fields?.isSome then
          diagnostic.kind ∈ [.format, .unknownArea, .missingWaypoint, .semantic]
        else diagnostic.kind ∈ [.unusedWaypoint, .missingCraftingArea] := by
  intro after sites turns refused left diagnostics
  let run := compile guide records.progress documents
  have hafter : after = records.extend run.progress run.diagnostics :=
    congrArg Prod.snd (run_recordRun guide records documents)
  have hsites : sites.map Site.fields = documents.flatMap groupsOfDocument :=
    (map_fields_flatMap_sitesOf _).trans (flatMap_groupsOfDocument documents).symm
  have hturns : turns.map Turn.fields = sites.map Site.fields := map_fields_turns _
  have hrefusals : run.refusals = refused.map fun (site, cause) => (site.fields, cause) := by
    rw [map_refusedSites hturns]
    show (compileDocuments guide records.progress documents).refusals = _
    rw [refusals_eq_walk, ← hsites]
  have hleft : left = run.findings := by
    show findings guide.world after.progress = _
    rw [hafter]
    rfl
  have hdiagnostics : run.diagnostics = diagnostics := by
    rw [Compilation.diagnostics, refusedDiagnostics, hrefusals, List.map_map, ← hleft]
    rfl
  rw [hdiagnostics] at hafter
  have hlog : after.log = records.log ++ diagnostics.map Diagnostic.logLine := by
    rw [hafter]
    rfl
  refine ⟨located_sitesOf, hturns, by rw [hafter]; rfl, ?_, ?_, ?_⟩
  · have hwarnings : (refused.map fun (site, cause) => .refused site.fields cause).map
        Diagnostic.logLine = refused.map fun (site, cause) =>
          ⟨.warning, .compiler, cause.message ++ ": " ++ site.text⟩ := by
      rw [List.map_map]
      apply List.map_congr_left
      rintro ⟨site, cause⟩ -
      exact site.logLine_refused cause
    rw [hlog, List.map_append, hwarnings, List.map_map, ← List.append_assoc]
    rfl
  · rw [hlog]
    refine congrArg _ (List.map_congr_left fun diagnostic _ => ?_)
    cases diagnostic <;> rfl
  · intro diagnostic hdiagnostic
    cases diagnostic with
    | refused fields cause => exact cause.kind_mem
    | found finding => exact finding.kind_mem

end Walkthrough

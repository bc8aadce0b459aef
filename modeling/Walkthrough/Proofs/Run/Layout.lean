import Walkthrough.Proofs.Route.Piece
import Walkthrough.Proofs.Run.Record
import Walkthrough.Proofs.Text.Lines

/-!
# Layout

What a walkthrough says does not depend on how it is laid out. Lines that say nothing may be put in
or left out, and it does not matter which document a line stands in, but that every document has a
route of its own.

* `saysSomething` — the lines that matter;
* `compileLines_filter` — all other lines may be left out;
* `whole_compileDocuments` — documents that are compiled one by one come to what their lines come
  to;
* `layout_carries_no_meaning` — so runs come to the same if the lines that matter are the same, and
  documents may be joined.
-/

namespace Walkthrough

open Walkthrough.Text

/-- Whether a line is neither blank nor a mere comment. -/
def saysSomething (line : String) : Bool :=
  !allBlank line.toList && !Piece.opensComment line.toList

variable {guide : Guide} {here : Progress}

/-! ## Lines that say nothing -/

theorem scan_of_isComment {line : String} (h : Piece.IsComment line.toList) :
    Token.scan line = [] := by
  rw [Token.scan, Piece.cut_of_isComment h]
  rfl

/-- A mere comment comes to nothing. -/
theorem compileLines_of_isComment {line : String} (h : Piece.IsComment line.toList)
    (lines : List String) :
    compileLines guide here (line :: lines) = compileLines guide here lines := by
  have htrail : followLine guide here line = .still here := by
    rw [followLine, scan_of_isComment h]
    rfl
  rw [compileLines, htrail]
  by_cases hblank : allBlank line.toList = true
  · rw [if_pos hblank]
  · rw [if_neg hblank]
    rfl

theorem saysSomething_eq_false_iff {line : String} :
    saysSomething line = false ↔
      allBlank line.toList = true ∨ Piece.IsComment line.toList := by
  rw [saysSomething, Bool.and_eq_false_iff, Bool.not_eq_false', Bool.not_eq_false',
    Piece.opensComment_iff]

/-- Lines that say nothing may be left out. -/
theorem compileLines_filter (lines : List String) :
    compileLines guide here (lines.filter saysSomething) = compileLines guide here lines := by
  induction lines generalizing here with
  | nil => rfl
  | cons line lines ih =>
      cases hsays : saysSomething line with
      | false =>
          rw [List.filter_cons_of_neg (Bool.not_eq_true _ ▸ hsays), ih]
          rcases saysSomething_eq_false_iff.mp hsays with hblank | hcomment
          · rw [compileLines, if_pos hblank]
          · rw [compileLines_of_isComment hcomment]
      | true =>
          have hblank : ¬allBlank line.toList = true := by
            intro hblank
            rw [saysSomething_eq_false_iff.mpr (.inl hblank)] at hsays
            cases hsays
          rw [List.filter_cons_of_pos hsays, compileLines, compileLines, if_neg hblank,
            if_neg hblank]
          simp only [ih]

/-! ## Documents -/

/-- What a journey comes to if its routes are put together. -/
def Journey.whole (journey : Journey) : Stretch :=
  ⟨journey.routes.flatten, journey.refusals, journey.progress⟩

/-- It does not matter which document a line stands in. -/
theorem whole_compileDocuments (documents : List String) :
    (compileDocuments guide here documents).whole =
      compileLines guide here (documents.flatMap lines) := by
  induction documents generalizing here with
  | nil => rfl
  | cons document documents ih =>
      rw [List.flatMap_cons, compileLines_append, ← compileDocument, compileDocuments]
      simp only [← ih]
      rfl

/-- A run comes to what all its lines come to, put together. -/
theorem run_recordRun_eq (records : Records) (documents : List String) :
    let run := (recordRun guide documents).run records
    let whole := compileLines guide records.progress (documents.flatMap lines)
    run.1.flatten = whole.steps ∧
      run.2 = records.extend whole.progress (refusedDiagnostics whole.refusals ++
        (findings guide.world whole.progress).map .found) := by
  intro run whole
  have hrun : run = _ := run_recordRun guide records documents
  have hwhole : whole = _ := (whole_compileDocuments documents).symm
  rw [hrun, hwhole]
  exact ⟨rfl, rfl⟩

/-- A line that says something is not empty. -/
theorem filter_saysSomething_lines (document : String) :
    (lines document).filter saysSomething = (filledLines document).filter saysSomething := by
  rw [filledLines_eq, List.filter_filter]
  refine List.filter_congr fun line _ => ?_
  cases hempty : line.toList.isEmpty with
  | false => rw [Bool.not_false, Bool.and_true]
  | true =>
      have hblank : allBlank line.toList = true := by
        rw [List.isEmpty_iff.mp hempty]
        rfl
      rw [saysSomething_eq_false_iff.mpr (.inl hblank), Bool.false_and]

/-- Joined documents have the lines of the single ones, as far as these say something. -/
theorem filter_saysSomething_intercalate {newline : String} (h : IsNewline newline)
    (documents : List String) :
    (lines (newline.intercalate documents)).filter saysSomething =
      (documents.flatMap lines).filter saysSomething := by
  rw [filter_saysSomething_lines, filledLines_intercalate h, List.filter_flatMap,
    List.filter_flatMap]
  simp only [filter_saysSomething_lines]

/-- How a walkthrough is laid out carries no meaning. If two lists of documents have the same lines
but for blank ones and mere comments, their runs come to the same steps and the same records: the
same progress, the same log and the same list of diagnostics. And if documents are joined to one, by
whichever line end, its run comes to one route, which is theirs put together, and to the same
records. -/
theorem layout_carries_no_meaning (guide : Guide) (records : Records) :
    (∀ documents others : List String,
      (documents.flatMap lines).filter saysSomething =
        (others.flatMap lines).filter saysSomething →
      let run := (recordRun guide documents).run records
      let other := (recordRun guide others).run records
      run.1.flatten = other.1.flatten ∧ run.2 = other.2) ∧
    ∀ (newline : String) (documents : List String), IsNewline newline →
      let apart := (recordRun guide documents).run records
      (recordRun guide [newline.intercalate documents]).run records =
        ([apart.1.flatten], apart.2) := by
  have hlayout (documents others : List String)
      (h : (documents.flatMap lines).filter saysSomething =
        (others.flatMap lines).filter saysSomething) :
      ((recordRun guide documents).run records).1.flatten =
          ((recordRun guide others).run records).1.flatten ∧
        ((recordRun guide documents).run records).2 =
          ((recordRun guide others).run records).2 := by
    obtain ⟨hsteps, hrecords⟩ := @run_recordRun_eq guide records documents
    obtain ⟨hsteps', hrecords'⟩ := @run_recordRun_eq guide records others
    have hwhole : compileLines guide records.progress (documents.flatMap lines) =
        compileLines guide records.progress (others.flatMap lines) := by
      rw [← compileLines_filter, h, compileLines_filter]
    rw [hsteps, hrecords, hsteps', hrecords', hwhole]
    exact ⟨rfl, rfl⟩
  refine ⟨hlayout, ?_⟩
  intro newline documents hnewline apart
  have hlines : ([newline.intercalate documents].flatMap lines).filter saysSomething =
      (documents.flatMap lines).filter saysSomething := by
    rw [List.flatMap_singleton, filter_saysSomething_intercalate hnewline]
  obtain ⟨hsteps, hrecords⟩ := hlayout _ _ hlines
  -- One document has one route.
  obtain ⟨route, hroute⟩ : ∃ route,
      ((recordRun guide [newline.intercalate documents]).run records).1 = [route] := by
    rw [run_recordRun]
    exact ⟨_, rfl⟩
  rw [hroute, List.flatten_singleton] at hsteps
  exact Prod.ext (hroute.trans (congrArg (fun route => [route]) hsteps)) hrecords

/-- The first document ends, and the second begins, with half of a line end. -/
theorem notes_and_blank_lines_are_left_out :
    let guide := Guide.of ⟨[], [], []⟩ none "maze"
    let records : Records := ⟨.start "shore" "hamlet", [], some []⟩
    let documents := ["beware of {kill|hermit}\r", "\n  # once more\n{town}"]
    let others := ["beware of {kill|hermit}\n{town}"]
    let apart := (recordRun guide documents).run records
    let run := (recordRun guide others).run records
    (documents.flatMap lines).filter saysSomething = (others.flatMap lines).filter saysSomething ∧
      apart.1.flatten = run.1.flatten ∧ apart.2 = run.2 ∧
      (recordRun guide ["\n".intercalate documents]).run records =
        ([apart.1.flatten], apart.2) := by
  intro guide records documents others apart run
  obtain ⟨hlayout, hjoined⟩ := layout_carries_no_meaning guide records
  have hlines : (documents.flatMap lines).filter saysSomething =
      (others.flatMap lines).filter saysSomething := by decide +kernel
  obtain ⟨hsteps, hrecords⟩ := hlayout documents others hlines
  exact ⟨hlines, hsteps, hrecords, hjoined "\n" documents (.inl rfl)⟩

end Walkthrough

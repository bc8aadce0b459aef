import Walkthrough.Proofs.Travel.Walk
import Walkthrough.Run.Record

/-!
# What the records come to

The records of a run are written line by line, with whoever collects diagnostics looking on. What
they come to can be said at once: the routes and the diagnostics are those of `compile`, and the log
says the same as the list.

* `Records.extend` — the records after some diagnostics have been written down;
* `run_recordGroup`, `run_recordLine` and their siblings — each program and what it comes to;
* `run_recordRun` — the records of a whole run;
* `runs_compose` — a run may be stopped after any document and be taken up again.
-/

namespace Walkthrough

namespace Records

/-- The records after diagnostics were reported on the way to a progress. -/
def extend (records : Records) (progress : Progress) (diagnostics : List Diagnostic) :
    Records where
  progress := progress
  log := records.log ++ diagnostics.map Diagnostic.logLine
  collected := records.collected.map (· ++ diagnostics)

variable (records : Records) (progress : Progress) (diagnostics : List Diagnostic)

@[simp] theorem progress_extend : (records.extend progress diagnostics).progress = progress := rfl

theorem extend_nil : records.extend records.progress [] = records := by
  obtain ⟨here, log, collected⟩ := records
  cases collected <;> simp [extend]

theorem extend_extend (next : Progress) (more : List Diagnostic) :
    (records.extend progress diagnostics).extend next more =
      records.extend next (diagnostics ++ more) := by
  obtain ⟨here, log, collected⟩ := records
  cases collected <;> simp [extend]

end Records

/-! ## One after the other -/

section Append

variable {guide : Guide} {here : Progress}

/-- Lines may be compiled in two goes. -/
theorem compileLines_append (lines more : List String) :
    compileLines guide here (lines ++ more) =
      let first := compileLines guide here lines
      let second := compileLines guide first.progress more
      ⟨first.steps ++ second.steps, first.refusals ++ second.refusals, second.progress⟩ := by
  induction lines generalizing here with
  | nil => rfl
  | cons line lines ih =>
      rw [List.cons_append, compileLines, compileLines]
      by_cases hblank : Text.allBlank line.toList = true
      · rw [if_pos hblank, if_pos hblank]
        exact ih
      · rw [if_neg hblank, if_neg hblank]
        simp only [ih, List.append_assoc]

/-- Documents may be compiled in two goes. -/
theorem compileDocuments_append (documents more : List String) :
    compileDocuments guide here (documents ++ more) =
      let first := compileDocuments guide here documents
      let second := compileDocuments guide first.progress more
      ⟨first.routes ++ second.routes, first.refusals ++ second.refusals, second.progress⟩ := by
  induction documents generalizing here with
  | nil => rfl
  | cons document documents ih =>
      rw [List.cons_append, compileDocuments, compileDocuments]
      simp only [ih, List.append_assoc, List.cons_append]

end Append

/-! ## The programs -/

variable (guide : Guide) (records : Records)

/-- A program goes on with what the one before it has come to. -/
theorem run_bind_of_eq {α β : Type} {first : Recorder α} {next : α → Recorder β}
    {records after : Records} {value : α} (h : first.run records = (value, after)) :
    (first >>= next).run records = (next value).run after := by
  rw [StateT.run_bind, h]
  rfl

theorem run_report (diagnostic : Diagnostic) :
    (report diagnostic).run records = ((), records.extend records.progress [diagnostic]) := rfl

theorem run_recordGroup (fields : List String) :
    (recordGroup guide fields).run records =
      match attempt guide records.progress fields with
      | .ok done after => (some done, records.extend after [])
      | .error cause after => (none, records.extend after [.refused fields cause]) := by
  have hget : (get : Recorder Records).run records = (records, records) := rfl
  rw [recordGroup, run_bind_of_eq hget]
  cases attempt guide records.progress fields with
  | ok done after =>
      show (some done, Records.mk after records.log records.collected) = _
      rw [← Records.extend_nil ⟨after, records.log, records.collected⟩]
      rfl
  | error cause after => rfl

/-- What one token adds to a draft is what following it adds to a trail. -/
theorem run_recordTokens (tokens : List Token) (draft : Draft) :
    (tokens.foldlM (recordToken guide) draft).run records =
      let trail := follow guide records.progress tokens
      (⟨draft.parts ++ trail.parts, draft.rewards ++ trail.rewards⟩,
        records.extend trail.progress (refusedDiagnostics trail.refusals)) := by
  induction tokens generalizing draft records with
  | nil =>
      show (draft, records) = (⟨draft.parts ++ [], draft.rewards ++ []⟩, _)
      rw [List.append_nil, List.append_nil]
      exact congrArg (Prod.mk draft) records.extend_nil.symm
  | cons token tokens ih =>
      rw [List.foldlM_cons]
      cases token with
      | literal text =>
          have hfirst : (recordToken guide draft (.literal text)).run records =
              (⟨draft.parts ++ [.text text], draft.rewards⟩, records) := rfl
          rw [run_bind_of_eq hfirst, ih]
          simp [follow, Trail.afterLiteral]
      | group fields =>
          have hgroup := run_recordGroup guide records fields
          rw [follow]
          cases hattempt : attempt guide records.progress fields with
          | ok done after =>
              rw [hattempt] at hgroup
              have hfirst : (recordToken guide draft (.group fields)).run records =
                  (⟨draft.parts ++ [.action done.action], draft.rewards ++ done.rewards⟩,
                    records.extend after []) := by
                rw [recordToken, run_bind_of_eq hgroup]
                rfl
              rw [run_bind_of_eq hfirst, ih]
              simp [Trail.afterAccepted, Records.extend_extend]
          | error cause after =>
              rw [hattempt] at hgroup
              have hfirst : (recordToken guide draft (.group fields)).run records =
                  (draft, records.extend after [.refused fields cause]) := by
                rw [recordToken, run_bind_of_eq hgroup]
                rfl
              rw [run_bind_of_eq hfirst, ih]
              simp [Trail.afterRefused, Records.extend_extend, refusedDiagnostics]

theorem run_recordLine (route : Route) (line : String) :
    (recordLine guide route line).run records =
      let stretch := compileLines guide records.progress [line]
      (route ++ stretch.steps,
        records.extend stretch.progress (refusedDiagnostics stretch.refusals)) := by
  have htokens := run_recordTokens guide records (Token.scan line) ⟨[], []⟩
  rw [← followLine] at htokens
  rw [compileLines, recordLine]
  by_cases hblank : Text.allBlank line.toList = true
  · rw [if_pos hblank, if_pos hblank]
    show (route, records) = (route ++ [], records.extend records.progress [])
    rw [List.append_nil, records.extend_nil]
  · rw [if_neg hblank, if_neg hblank, run_bind_of_eq htokens]
    generalize followLine guide records.progress line = trail
    simp only [compileLines, Trail.steps, List.nil_append, List.append_nil]
    by_cases hcontent : hasContent trail.parts = true
    · rw [if_pos hcontent, if_pos hcontent, ← List.append_assoc]
      rfl
    · rw [if_neg hcontent, if_neg hcontent, List.nil_append]
      rfl

theorem run_recordLines (route : Route) (lines : List String) :
    (lines.foldlM (recordLine guide) route).run records =
      let stretch := compileLines guide records.progress lines
      (route ++ stretch.steps,
        records.extend stretch.progress (refusedDiagnostics stretch.refusals)) := by
  induction lines generalizing route records with
  | nil =>
      show (route, records) = (route ++ [], records.extend records.progress [])
      rw [List.append_nil, records.extend_nil]
  | cons line lines ih =>
      have happend := @compileLines_append guide records.progress [line] lines
      rw [List.singleton_append] at happend
      rw [List.foldlM_cons, run_bind_of_eq (run_recordLine guide records route line), ih, happend]
      simp [Records.extend_extend, refusedDiagnostics]

theorem run_recordDocument (document : String) :
    (recordDocument guide document).run records =
      let stretch := compileDocument guide records.progress document
      (stretch.steps, records.extend stretch.progress (refusedDiagnostics stretch.refusals)) :=
  run_recordLines guide records [] (Text.lines document)

theorem run_recordDocuments (documents : List String) :
    (documents.mapM (recordDocument guide)).run records =
      let journey := compileDocuments guide records.progress documents
      (journey.routes,
        records.extend journey.progress (refusedDiagnostics journey.refusals)) := by
  induction documents generalizing records with
  | nil => exact congrArg (Prod.mk []) records.extend_nil.symm
  | cons document documents ih =>
      rw [List.mapM_cons, run_bind_of_eq (run_recordDocument guide records document),
        run_bind_of_eq (ih _), compileDocuments]
      simp [Records.extend_extend, refusedDiagnostics]
      rfl

theorem run_reports (findings : List Finding) :
    (findings.forM fun finding => report (.found finding)).run records =
      ((), records.extend records.progress (findings.map .found)) := by
  induction findings generalizing records with
  | nil => exact congrArg (Prod.mk ()) records.extend_nil.symm
  | cons finding findings ih =>
      show (report (.found finding) >>= fun _ =>
        findings.forM fun finding => report (.found finding)).run records = _
      rw [run_bind_of_eq (run_report records (.found finding)), ih, Records.extend_extend]
      rfl

/-- The records of a run: its routes and its diagnostics are those of compiling the documents. -/
theorem run_recordRun (documents : List String) :
    (recordRun guide documents).run records =
      let run := compile guide records.progress documents
      (run.routes, records.extend run.progress run.diagnostics) := by
  have hget (now : Records) : (get : Recorder Records).run now = (now, now) := rfl
  rw [recordRun, run_bind_of_eq (run_recordDocuments guide records documents),
    run_bind_of_eq (hget _), run_bind_of_eq (run_reports _ _), Records.extend_extend]
  rfl

/-! ## Runs in a row -/

/-- The diagnostics about single groups. -/
def aboutGroups (diagnostics : List Diagnostic) : List Diagnostic :=
  diagnostics.filter fun diagnostic => diagnostic.fields?.isSome

/-- The diagnostics about what was left undone at the end of a run. -/
def aboutTheEnd (diagnostics : List Diagnostic) : List Diagnostic :=
  diagnostics.filter fun diagnostic => diagnostic.fields?.isNone

/-- Of diagnostics of one kind a filter keeps all or none. -/
theorem filter_map_diagnostics {α : Type} {p : Diagnostic → Bool} {kept : Bool}
    {diagnostic : α → Diagnostic} (h : ∀ a, p (diagnostic a) = kept) (list : List α) :
    (list.map diagnostic).filter p = if kept then list.map diagnostic else [] := by
  cases kept with
  | true => exact List.filter_eq_self.mpr (List.forall_mem_map.mpr fun a _ => h a)
  | false =>
      apply List.filter_eq_nil_iff.mpr
      rw [List.forall_mem_map]
      intro a _
      rw [h a]
      exact Bool.false_ne_true

/-- A filter that tells the two kinds of diagnostics apart. -/
theorem filter_diagnostics (p : Diagnostic → Bool) {refused found : Bool}
    (hrefused : ∀ refusal : List String × Refusal, p (.refused refusal.1 refusal.2) = refused)
    (hfound : ∀ finding, p (.found finding) = found) (run : Compilation) :
    run.diagnostics.filter p =
      (if refused then refusedDiagnostics run.refusals else []) ++
        if found then run.findings.map .found else [] := by
  rw [Compilation.diagnostics, List.filter_append, filter_map_diagnostics hfound]
  exact congrArg (· ++ _) (filter_map_diagnostics hrefused run.refusals)

theorem aboutGroups_diagnostics (run : Compilation) :
    aboutGroups run.diagnostics = refusedDiagnostics run.refusals := by
  have hfilter :=
    @filter_diagnostics (·.fields?.isSome) true false (fun _ => rfl) (fun _ => rfl) run
  rw [if_pos rfl, if_neg Bool.false_ne_true, List.append_nil] at hfilter
  exact hfilter

theorem aboutTheEnd_diagnostics (run : Compilation) :
    aboutTheEnd run.diagnostics = run.findings.map .found := by
  have hfilter :=
    @filter_diagnostics (·.fields?.isNone) false true (fun _ => rfl) (fun _ => rfl) run
  rw [if_pos rfl, if_neg Bool.false_ne_true, List.nil_append] at hfilter
  exact hfilter

/-- Documents may be compiled in two runs, of which the second one finds what was left undone. -/
theorem compile_append (guide : Guide) (here : Progress) (first second : List String) :
    compile guide here (first ++ second) =
      let one := compile guide here first
      let two := compile guide one.progress second
      ⟨one.routes ++ two.routes, one.refusals ++ two.refusals, two.findings, two.progress⟩ := by
  rw [compile, compileDocuments_append]
  rfl

/-- A run may be stopped after any document and be taken up again where it has led to. The routes
and the diagnostics about groups are those of the two runs, one after the other, and what was left
undone is what the second run has found. Whether somebody collects the diagnostics makes no
difference to the routes, the log and the progress. -/
theorem runs_compose (guide : Guide) (here : Progress) (log : List LogLine) :
    (∀ first second : List String,
      let one := (recordRun guide first).run ⟨here, log, some []⟩
      let two := (recordRun guide second).run ⟨one.2.progress, log, some []⟩
      let whole := (recordRun guide (first ++ second)).run ⟨here, log, some []⟩
      whole.1 = one.1 ++ two.1 ∧
        whole.2.collected = some (aboutGroups one.2.diagnostics ++
          aboutGroups two.2.diagnostics ++ aboutTheEnd two.2.diagnostics) ∧
        whole.2.progress = two.2.progress) ∧
    ∀ (documents : List String) (list : List Diagnostic),
      let asked := (recordRun guide documents).run ⟨here, log, some list⟩
      let unasked := (recordRun guide documents).run ⟨here, log, none⟩
      unasked.1 = asked.1 ∧ unasked.2.log = asked.2.log ∧
        unasked.2.progress = asked.2.progress ∧ unasked.2.collected = none := by
  constructor
  · intro first second one two whole
    have hone : one = _ := run_recordRun guide ⟨here, log, some []⟩ first
    have hprogress : one.2.progress = (compile guide here first).progress := by rw [hone]; rfl
    have htwo : two = _ := run_recordRun guide ⟨one.2.progress, log, some []⟩ second
    have hwhole : whole = _ := run_recordRun guide ⟨here, log, some []⟩ (first ++ second)
    rw [hprogress] at htwo
    simp only [compile_append] at hwhole
    rw [hwhole, htwo, hone]
    refine ⟨rfl, congrArg some ?_, rfl⟩
    show Compilation.diagnostics _ = aboutGroups (Compilation.diagnostics _) ++
      aboutGroups (Compilation.diagnostics _) ++ aboutTheEnd (Compilation.diagnostics _)
    rw [aboutGroups_diagnostics, aboutGroups_diagnostics, aboutTheEnd_diagnostics,
      Compilation.diagnostics, refusedDiagnostics, List.map_append]
    rfl
  · intro documents list asked unasked
    have hasked : asked = _ := run_recordRun guide ⟨here, log, some list⟩ documents
    have hunasked : unasked = _ := run_recordRun guide ⟨here, log, none⟩ documents
    rw [hasked, hunasked]
    exact ⟨rfl, rfl, rfl, rfl⟩

end Walkthrough

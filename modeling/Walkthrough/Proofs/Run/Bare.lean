import Walkthrough.Proofs.Travel.Footprint
import Walkthrough.Run.Compile

/-!
# Bare runs

A run is bare if it has no build and starts without gems. All that a build does to a run is to pick
up gems: if they are taken out again, what remains is the bare run.

* `Outcome.bare`, `Trail.bare`, `Route.bare` and their siblings — the gems are taken out;
* `bare_attempt` — taking them out of what becomes of a group;
* `bare_compile` — and of a whole run;
* `build_decides_only_rewards` — so the build decides about rewards and the gems that are held, and
  about nothing else.
-/

namespace Walkthrough

open Walkthrough.Text (Letters)

/-! ## Taking the gems out -/

def Guide.bare (guide : Guide) : Guide := guide.withBuild none

def Progress.bare (here : Progress) : Progress := { here with gems := ∅ }

def Accepted.bare (done : Accepted) : Accepted := { done with rewards := [] }

def Outcome.bare : Outcome → Outcome
  | .ok done after => .ok done.bare after.bare
  | .error cause after => .error cause after.bare

def Trail.bare (trail : Trail) : Trail :=
  { trail with rewards := [], progress := trail.progress.bare }

def Step.isLine : Step → Bool
  | .line _ => true
  | .reward _ => false

/-- The route without its rewards. -/
def Route.bare (route : Route) : Route := route.filter Step.isLine

def Stretch.bare (stretch : Stretch) : Stretch :=
  { stretch with steps := Route.bare stretch.steps, progress := stretch.progress.bare }

def Journey.bare (journey : Journey) : Journey :=
  { journey with routes := journey.routes.map Route.bare, progress := journey.progress.bare }

def Compilation.bare (run : Compilation) : Compilation :=
  { run with routes := run.routes.map Route.bare, progress := run.progress.bare }

variable {guide : Guide} {here there : Progress}

/-- What remains without the gems decides about everything but the gems. -/
theorem Progress.eq_of_bare_eq (h : here.bare = there.bare) :
    there = { here with gems := there.gems } := by
  calc there = { there.bare with gems := there.gems } := rfl
    _ = { here.bare with gems := there.gems } := by rw [h]

/-! ## A group -/

theorem bare_attempt_quest (rest : List String) :
    (attempt guide here ("quest" :: rest)).bare =
      attempt guide.bare here.bare ("quest" :: rest) := by
  cases rest with
  | nil => rfl
  | cons key fields =>
      have hfull := (attempt_cons .quest (key :: fields)).trans
        (run_performQuest guide here key fields)
      have hbare := (attempt_cons .quest (key :: fields)).trans
        (run_performQuest guide.bare here.bare key fields)
      simp only [Verb.name, Guide.bare, Guide.world_withBuild] at hfull hbare ⊢
      rw [hfull, hbare]
      cases guide.world.quest? key with
      | none => rfl
      | some quest =>
          simp only []
          cases offerPositions? quest.offers.length fields <;> rfl

theorem bare_attempt_crafting (rest : List String) :
    (attempt guide here ("crafting" :: rest)).bare =
      attempt guide.bare here.bare ("crafting" :: rest) := by
  have hrun (id? : Option Letters) : Outcome.bare ((performCrafting guide id?).run here) =
      (performCrafting guide.bare id?).run here.bare := by
    rw [run_performCrafting, run_performCrafting]
    simp only [Guide.bare, Guide.world_withBuild, Progress.bare]
    cases guide.world.area? (id?.getD here.currentArea) <;> rfl
  match rest with
  | [] => exact hrun none
  | [id] => exact hrun (some id)
  | _ :: _ :: _ => rfl

/-- What becomes of a group is the same without the gems, but for the gems. -/
theorem bare_attempt (guide : Guide) (here : Progress) (fields : List String) :
    (attempt guide here fields).bare = attempt guide.bare here.bare fields := by
  by_cases hquest : verbOf? fields = some .quest
  · obtain ⟨rest, rfl⟩ := eq_cons_of_verbOf? hquest
    exact bare_attempt_quest rest
  by_cases hcrafting : verbOf? fields = some .crafting
  · obtain ⟨rest, rfl⟩ := eq_cons_of_verbOf? hcrafting
    exact bare_attempt_crafting rest
  -- All other verbs overlook the gems and the build, and neither pick up gems nor craft.
  have hbare : attempt guide.bare here.bare fields =
      (attempt guide here fields).beside here.crafted ∅ :=
    attempt_beside hquest hcrafting none here.crafted ∅
  rw [hbare]
  rcases settled guide here fields with ⟨done, after, hdoes⟩ | ⟨cause, herror⟩
  · rw [hdoes.verbOf?_eq] at hquest hcrafting
    have hcrafted := hdoes.crafted_eq fun h => hcrafting (congrArg some h)
    obtain ⟨-, hrewards⟩ := hdoes.gems_eq fun h => hquest (congrArg some h)
    rw [attempt_of_does hdoes, ← hcrafted]
    show EStateM.Result.ok done.bare after.bare = .ok done after.bare
    rw [Accepted.bare, ← hrewards]
  · rw [herror]
    rfl

/-! ## Lines and documents -/

theorem bare_follow (tokens : List Token) :
    (follow guide here tokens).bare = follow guide.bare here.bare tokens := by
  induction tokens generalizing here with
  | nil => rfl
  | cons token tokens ih =>
      cases token with
      | literal text => exact congrArg (Trail.afterLiteral text) ih
      | group fields =>
          rw [follow, follow, ← bare_attempt]
          cases attempt guide here fields with
          | ok done after => exact congrArg (Trail.afterAccepted done.bare) ih
          | error cause after => exact congrArg (Trail.afterRefused fields cause) ih

/-- A line is shown or left out whatever gems come after it. -/
theorem bare_steps (trail : Trail) : Route.bare trail.steps = trail.bare.steps := by
  have hrewards : (trail.rewards.map Step.reward).filter Step.isLine = [] := by
    rw [List.filter_eq_nil_iff]
    intro step hstep
    obtain ⟨reward, -, rfl⟩ := List.mem_map.mp hstep
    exact Bool.false_ne_true
  have hline : trail.bare.steps = if hasContent trail.parts then [.line trail.parts] else [] :=
    List.append_nil _
  rw [hline, Route.bare, Trail.steps, List.filter_append, hrewards, List.append_nil]
  by_cases hcontent : hasContent trail.parts = true
  · rw [if_pos hcontent]
    rfl
  · rw [if_neg hcontent]
    rfl

theorem bare_compileLines (lines : List String) :
    (compileLines guide here lines).bare = compileLines guide.bare here.bare lines := by
  induction lines generalizing here with
  | nil => rfl
  | cons line lines ih =>
      rw [compileLines, compileLines]
      by_cases hblank : Text.allBlank line.toList = true
      · rw [if_pos hblank, if_pos hblank]
        exact ih
      · rw [if_neg hblank, if_neg hblank]
        have htrail : followLine guide.bare here.bare line = (followLine guide here line).bare :=
          (bare_follow (Token.scan line)).symm
        have hrest : compileLines guide.bare (followLine guide here line).bare.progress lines =
            (compileLines guide (followLine guide here line).progress lines).bare := ih.symm
        simp only [htrail, hrest, ← bare_steps]
        exact congrArg (Stretch.mk · _ _) (List.filter_append _ _)

theorem bare_compileDocuments (documents : List String) :
    (compileDocuments guide here documents).bare =
      compileDocuments guide.bare here.bare documents := by
  induction documents generalizing here with
  | nil => rfl
  | cons document documents ih =>
      have hstretch : compileDocument guide.bare here.bare document =
          (compileDocument guide here document).bare :=
        (bare_compileLines (Text.lines document)).symm
      have hrest : compileDocuments guide.bare
            (compileDocument guide here document).bare.progress documents =
          (compileDocuments guide (compileDocument guide here document).progress
            documents).bare := ih.symm
      rw [compileDocuments, compileDocuments]
      simp only [hstretch, hrest]
      rfl

/-- A run without the gems that were picked up is the bare run. -/
theorem bare_compile (guide : Guide) (here : Progress) (documents : List String) :
    (compile guide here documents).bare = compile guide.bare here.bare documents := by
  rw [compile, compile, ← bare_compileDocuments]
  rfl

/-- Two runs of the same documents from the same progress that differ in the build, which may be
missing, report the same in the same order, in the diagnostics and in the log. Their routes are the
same but for the rewards, and they end in the same progress but for the gems. -/
theorem build_decides_only_rewards (guide : Guide) (first second : Option Build)
    (here : Progress) (documents : List String) :
    let one := compile (guide.withBuild first) here documents
    let other := compile (guide.withBuild second) here documents
    one.diagnostics = other.diagnostics ∧ one.log = other.log ∧
      one.routes.map Route.bare = other.routes.map Route.bare ∧
      ∃ gems, other.progress = { one.progress with gems := gems } := by
  intro one other
  have hbare : one.bare = other.bare :=
    (bare_compile (guide.withBuild first) here documents).trans
      (bare_compile (guide.withBuild second) here documents).symm
  obtain ⟨hroutes, hrefusals, hfindings, hprogress⟩ := Compilation.mk.inj hbare
  have hdiagnostics : one.diagnostics = other.diagnostics := by
    rw [Compilation.diagnostics, Compilation.diagnostics, hrefusals, hfindings]
  refine ⟨hdiagnostics, ?_, hroutes, other.progress.gems, ?_⟩
  · rw [Compilation.log, Compilation.log, hdiagnostics]
  · exact Progress.eq_of_bare_eq hprogress

end Walkthrough

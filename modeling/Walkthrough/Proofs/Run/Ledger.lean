import Walkthrough.Proofs.Run.Account

/-!
# The ledger of gems

The same gem may be wanted more than once, and it may be offered by many quests, by several offers
of one quest and on both sides of one offer. It is picked up once, and the gems that are held are a
ledger of what was picked up.

* `Ledger` — rewards that take one set of gems to another, with `Ledger.append`;
* `ledger_collectFor`, `ledger_walk` — a hand-in keeps the ledger, and so does a walk;
* `rewards_compileDocuments` — no reward is lost between the groups and the routes;
* `gems_are_rewarded_once` — the ledger of any number of runs along one progress.
-/

namespace Walkthrough

open Walkthrough.Text (Letters)

/-- `Ledger held rewards after`: with `held` at the beginning the rewards are for gems that were
missing, for each of them once, and `after` holds these gems besides. -/
structure Ledger (held : IdSet) (rewards : List Reward) (after : IdSet) : Prop where
  nodup : (rewards.map Reward.gem).Nodup
  missing : ∀ id ∈ rewards.map Reward.gem, id ∉ held
  mem_iff : ∀ id, id ∈ after ↔ id ∈ held ∨ id ∈ rewards.map Reward.gem

namespace Ledger

variable {held middle after : IdSet}

theorem nil (held : IdSet) : Ledger held [] held where
  nodup := .nil
  missing := nofun
  mem_iff := fun _ => (or_iff_left List.not_mem_nil).symm

theorem single {reward : Reward} (h : reward.gem ∉ held) :
    Ledger held [reward] (held.insert reward.gem) where
  nodup := List.pairwise_singleton _ _
  missing := List.forall_mem_singleton.mpr h
  mem_iff := fun id => by
    rw [IdSet.mem_insert, List.map_singleton, List.mem_singleton, or_comm]

/-- One ledger is continued by another. -/
theorem append {first second : List Reward} (h₁ : Ledger held first middle)
    (h₂ : Ledger middle second after) : Ledger held (first ++ second) after where
  nodup := by
    rw [List.map_append, List.nodup_append]
    refine ⟨h₁.nodup, h₂.nodup, ?_⟩
    -- What the first rewards are for is held in the middle, where the others are missing.
    rintro id hfirst _ hsecond rfl
    exact h₂.missing id hsecond ((h₁.mem_iff id).mpr (.inr hfirst))
  missing := by
    intro id hid
    rw [List.map_append, List.mem_append] at hid
    rcases hid with hfirst | hsecond
    · exact h₁.missing id hfirst
    · intro hheld
      exact h₂.missing id hsecond ((h₁.mem_iff id).mpr (.inl hheld))
  mem_iff := fun id => by
    rw [h₂.mem_iff, h₁.mem_iff, List.map_append, List.mem_append, or_assoc]

end Ledger

/-! ## Hand-ins -/

theorem ledger_collectSide (characterClass : Letters) (offer : Offer) (side : Side)
    (gems : List WantedGem) (held : IdSet) :
    Ledger held (Reward.collectSide characterClass offer side gems held).1
      (Reward.collectSide characterClass offer side gems held).2 := by
  induction gems generalizing held with
  | nil => exact .nil held
  | cons gem gems ih =>
      rw [Reward.collectSide]
      by_cases hpick : gem.id ∉ held ∧ Reward.isOffered characterClass offer side gem = true
      · rw [if_pos hpick]
        have hgem : Ledger held [Reward.ofGem offer side gem] (held.insert gem.id) :=
          .single hpick.1
        exact hgem.append (ih (held.insert gem.id))
      · rw [if_neg hpick]
        exact ih held

theorem ledger_collect (build : Build) (offers : List Offer) (held : IdSet) :
    Ledger held (Reward.collect build offers held).1 (Reward.collect build offers held).2 := by
  induction offers generalizing held with
  | nil => exact .nil held
  | cons offer offers ih =>
      have hquest := ledger_collectSide build.characterClass offer .quest build.gems held
      have hvendor := ledger_collectSide build.characterClass offer .vendor build.gems
        (Reward.collectSide build.characterClass offer .quest build.gems held).2
      exact (hquest.append hvendor).append (ih _)

/-- A hand-in keeps the ledger. -/
theorem ledger_collectFor (build : Option Build) (offers : List Offer) (held : IdSet) :
    Ledger held (Reward.collectFor build offers held).1
      (Reward.collectFor build offers held).2 := by
  cases build with
  | none => exact .nil held
  | some build => exact ledger_collect build offers held

/-! ## Runs -/

variable {guide : Guide} {here after : Progress} {fields : List String} {done : Accepted}

/-- Every rule keeps the ledger; all but hand-ins leave the gems alone and yield none. -/
theorem Does.ledger (h : Does guide here fields done after) :
    Ledger here.gems done.rewards after.gems := by
  cases h with
  | quest => exact ledger_collectFor _ _ _
  | kill | arena | area | enter | town | reminder | waypoint | getWaypoint | setPortal
  | portalToTown | portalBack | questText | generic | trial | ascend | dir | crafting
  | craftingHere => exact .nil here.gems

theorem ledger_walk (groups : List (List String)) :
    Ledger here.gems ((walk guide here groups).turns.flatMap Turn.rewards)
      (walk guide here groups).progress.gems := by
  induction groups generalizing here with
  | nil => exact .nil here.gems
  | cons fields groups ih =>
      rw [walk_cons, List.flatMap_cons]
      rcases settled guide here fields with ⟨done, after, hdoes⟩ | ⟨cause, herror⟩
      · rw [attempt_of_does hdoes]
        exact hdoes.ledger.append ih
      · rw [herror]
        exact ih

/-- The reward that a step is. -/
def Step.reward? : Step → Option Reward
  | .line _ => none
  | .reward r => some r

/-- A line may be left out if it shows nothing, but never the gems after it. -/
theorem filterMap_reward?_steps (trail : Trail) :
    trail.steps.filterMap Step.reward? = trail.rewards := by
  have hrewards : (trail.rewards.map Step.reward).filterMap Step.reward? = trail.rewards := by
    rw [List.filterMap_map, show Step.reward? ∘ Step.reward = some from rfl, List.filterMap_some]
  by_cases hcontent : hasContent trail.parts = true
  · rw [Trail.steps, if_pos hcontent, List.filterMap_append, hrewards]
    rfl
  · rw [Trail.steps, if_neg hcontent, List.filterMap_append, hrewards]
    rfl

/-- The rewards in the routes are those of the accepted groups, in turn. -/
theorem rewards_compileDocuments (documents : List String) :
    (compileDocuments guide here documents).routes.flatten.filterMap Step.reward? =
      (walk guide here (documents.flatMap groupsOfDocument)).turns.flatMap Turn.rewards := by
  have hvisit : (fun visit => (visit.turns guide).flatMap Turn.rewards) =
      fun visit : Visit => (visit.trail guide).steps.filterMap Step.reward? := by
    funext visit
    rw [filterMap_reward?_steps]
    exact (follow_yields (Token.scan visit.line)).1.symm
  rw [flatten_routes, ← turns_visitDocuments, List.filterMap_flatMap, List.flatMap_assoc, hvisit]

/-- The rewards in the routes of a run. -/
def Compilation.rewards (run : Compilation) : List Reward :=
  run.routes.flatten.filterMap Step.reward?

theorem ledger_compile (guide : Guide) (here : Progress) (documents : List String) :
    Ledger here.gems (compile guide here documents).rewards
      (compile guide here documents).progress.gems := by
  have hrewards : (compile guide here documents).rewards =
      (walk guide here (documents.flatMap groupsOfDocument)).turns.flatMap Turn.rewards :=
    rewards_compileDocuments documents
  rw [hrewards, compile_progress_eq_walk]
  exact ledger_walk _

/-! ## Runs one after the other -/

/-- Several runs, and the progress after them. -/
structure Series where
  runs : List Compilation
  progress : Progress

/-- Compiles several lists of documents one after the other along one progress, each against a guide
of its own. -/
def compileInTurn (here : Progress) : List (Guide × List String) → Series
  | [] => ⟨[], here⟩
  | (guide, documents) :: calls =>
    let run := compile guide here documents
    let rest := compileInTurn run.progress calls
    ⟨run :: rest.runs, rest.progress⟩

theorem ledger_compileInTurn (calls : List (Guide × List String)) :
    Ledger here.gems ((compileInTurn here calls).runs.flatMap Compilation.rewards)
      (compileInTurn here calls).progress.gems := by
  induction calls generalizing here with
  | nil => exact .nil here.gems
  | cons call calls ih => exact (ledger_compile call.1 here call.2).append ih

/-- Over any number of runs along one progress, whatever the worlds and the builds, no two rewards
in the routes are for one gem, and the gems that are held in the end are just those of the
rewards. -/
theorem gems_are_rewarded_once (area town : Letters) (calls : List (Guide × List String)) :
    let series := compileInTurn (.start area town) calls
    let gems := (series.runs.flatMap Compilation.rewards).map Reward.gem
    gems.Nodup ∧ ∀ id, id ∈ series.progress.gems ↔ id ∈ gems := by
  intro series gems
  have hledger := @ledger_compileInTurn (.start area town) calls
  refine ⟨hledger.nodup, fun id => ?_⟩
  exact (hledger.mem_iff id).trans (or_iff_right (IdSet.not_mem_empty id))

end Walkthrough

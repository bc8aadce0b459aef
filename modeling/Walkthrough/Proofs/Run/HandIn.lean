import Walkthrough.Proofs.Run.Ledger
import Walkthrough.Proofs.Run.Record
import Walkthrough.Proofs.World.Loaded

/-!
# Where rewards come from

A gem in a route is there for a reason. It stands behind the line that it belongs to, this line
shows that a quest is handed in, and among the offers of the quest is one that has the gem for the
build.

* `Offered` — what an offer has for a build, with `offered_of_mem_collect`: a hand-in picks nothing
  else;
* `Justified` — a reward and the hand-in that a line shows, with `Does.justified` for one group and
  `justified_of_mem_follow` for a line;
* `RewardsFollow` — no reward of a route stands alone;
* `rewards_are_justified` — that is so in every route of every run.
-/

namespace Walkthrough

open Walkthrough.Text (Letters)

/-! ## What is picked -/

/-- An offer has a reward for a build: the gem is on that side of the offer, for everyone or for the
class of the build, and the build wants it. If it wants the gem more than once, the first note
counts. -/
structure Offered (build : Build) (offer : Offer) (reward : Reward) : Prop where
  forClass : ∃ classes, (offer.side reward.side).get? reward.gem = some classes ∧
    (classes = [] ∨ build.characterClass ∈ classes)
  npc : reward.npc = offer.npc
  wanted : ∃ gem, build.gems.find? (fun gem => gem.id = reward.gem) = some gem ∧
    reward.note = if gem.note = [] then none else some gem.note

namespace Reward

variable {characterClass : Letters} {offer : Offer} {side : Side} {reward : Reward}

/-- Whether a gem is offered does not depend on its note. -/
theorem isOffered_congr {gem other : WantedGem} (h : gem.id = other.id) :
    isOffered characterClass offer side gem = isOffered characterClass offer side other := by
  unfold isOffered
  rw [h]

theorem isOffered_iff {gem : WantedGem} :
    isOffered characterClass offer side gem = true ↔
      ∃ classes, (offer.side side).get? gem.id = some classes ∧
        (classes = [] ∨ characterClass ∈ classes) := by
  unfold isOffered
  cases (offer.side side).get? gem.id with
  | none => simp
  | some classes => simp [offeredTo]

/-- Nothing is picked that was held before. -/
theorem gem_notMem_of_mem_collectSide {gems : List WantedGem} {held : IdSet}
    (h : reward ∈ (collectSide characterClass offer side gems held).1) : reward.gem ∉ held :=
  (ledger_collectSide characterClass offer side gems held).missing _ (List.mem_map_of_mem h)

/-- What one side of an offer yields is the reward for the first wanted gem of that id. -/
theorem find?_of_mem_collectSide {gems : List WantedGem} {held : IdSet}
    (h : reward ∈ (collectSide characterClass offer side gems held).1) :
    ∃ gem, gems.find? (fun gem => gem.id = reward.gem) = some gem ∧
      isOffered characterClass offer side gem = true ∧ reward = ofGem offer side gem := by
  induction gems generalizing held with
  | nil => exact absurd h List.not_mem_nil
  | cons gem gems ih =>
      rw [collectSide] at h
      by_cases hpick : gem.id ∉ held ∧ isOffered characterClass offer side gem = true
      · rw [if_pos hpick] at h
        rcases List.mem_cons.mp h with rfl | hrest
        · exact ⟨gem, List.find?_cons_of_pos (decide_eq_true rfl), hpick.2, rfl⟩
        · -- The gem is held from now on, so the reward is for another one.
          have hne : gem.id ≠ reward.gem := by
            intro heq
            exact gem_notMem_of_mem_collectSide hrest (IdSet.mem_insert.mpr (.inl heq.symm))
          rw [List.find?_cons_of_neg (by simpa using hne)]
          exact ih hrest
      · rw [if_neg hpick] at h
        obtain ⟨other, hfind, hoffered, hreward⟩ := ih h
        -- Were it for this gem, the gem would have been picked.
        have hne : gem.id ≠ reward.gem := by
          intro heq
          have hid : gem.id = other.id := by rw [heq, hreward, ofGem]
          apply hpick
          rw [isOffered_congr hid, heq]
          exact ⟨gem_notMem_of_mem_collectSide h, hoffered⟩
        rw [List.find?_cons_of_neg (by simpa using hne)]
        exact ⟨other, hfind, hoffered, hreward⟩

theorem offered_of_mem_collectSide {build : Build} {held : IdSet}
    (h : reward ∈ (collectSide build.characterClass offer side build.gems held).1) :
    Offered build offer reward := by
  obtain ⟨gem, hfind, hoffered, rfl⟩ := find?_of_mem_collectSide h
  refine ⟨isOffered_iff.mp hoffered, rfl, gem, hfind, ?_⟩
  simp [ofGem]

/-- A hand-in yields only what one of the offers has for the build. -/
theorem offered_of_mem_collect {build : Build} {offers : List Offer} {held : IdSet}
    (h : reward ∈ (collect build offers held).1) :
    ∃ offer ∈ offers, Offered build offer reward := by
  induction offers generalizing held with
  | nil => exact absurd h List.not_mem_nil
  | cons offer offers ih =>
      rcases List.mem_append.mp h with hoffer | hrest
      · refine ⟨offer, List.mem_cons_self, ?_⟩
        rcases List.mem_append.mp hoffer with hquest | hvendor
        · exact offered_of_mem_collectSide hquest
        · exact offered_of_mem_collectSide hvendor
      · obtain ⟨other, hmem, hoffered⟩ := ih hrest
        exact ⟨other, List.mem_cons_of_mem _ hmem, hoffered⟩

end Reward

/-- An offer that is considered is one of the quest; if positions are named, it stands at one of
them. -/
theorem Quest.mem_considered {quest : Quest} {positions : List Nat} {offer : Offer} :
    offer ∈ quest.considered positions ↔
      offer ∈ quest.offers ∧
        (positions = [] ∨ ∃ n ∈ positions, quest.offers[n]? = some offer) := by
  unfold Quest.considered
  cases positions with
  | nil => simp
  | cons n positions =>
      rw [List.isEmpty_cons, if_neg Bool.false_ne_true, List.mem_filterMap]
      constructor
      · intro h
        have hnamed := h
        obtain ⟨n, -, hget⟩ := hnamed
        exact ⟨List.mem_of_getElem? hget, .inr h⟩
      · rintro ⟨-, hnil | h⟩
        · cases hnil
        · exact h

/-! ## Lines -/

/-- A reward is justified by what a line shows: among its parts is the hand-in of a quest of the
world, and an offer of this quest has the reward for the build. If the hand-in names offers, it is
one of these. -/
def Justified (guide : Guide) (parts : List Part) (reward : Reward) : Prop :=
  ∃ build quest positions offer, guide.build = some build ∧ quest ∈ guide.world.quests.values ∧
    .action (.quest quest.id positions) ∈ parts ∧ offer ∈ quest.offers ∧
    (positions = [] ∨ ∃ n ∈ positions, quest.offers[n]? = some offer) ∧
    Offered build offer reward

variable {guide : Guide} {here after : Progress} {fields : List String} {done : Accepted}
variable {parts : List Part} {reward : Reward}

/-- What justifies a reward still does when the line shows more. -/
theorem Justified.mono {more : List Part} (h : Justified guide parts reward)
    (hsub : ∀ part ∈ parts, part ∈ more) : Justified guide more reward := by
  obtain ⟨build, quest, positions, offer, hbuild, hquest, hshown, hoffer⟩ := h
  exact ⟨build, quest, positions, offer, hbuild, hquest, hsub _ hshown, hoffer⟩

/-- A line that justifies a reward is not left out. -/
theorem Justified.hasContent (h : Justified guide parts reward) : hasContent parts = true := by
  obtain ⟨-, quest, positions, -, -, -, hshown, -⟩ := h
  exact List.any_eq_true.mpr ⟨_, hshown, rfl⟩

/-- Only hand-ins yield rewards, and each reward is justified by the action of its group. -/
theorem Does.justified (h : Does guide here fields done after) :
    ∀ reward ∈ done.rewards, Justified guide [.action done.action] reward := by
  intro reward hmem
  cases h with
  | @quest key _ quest positions hquest hpositions =>
      have hvalue : quest ∈ guide.world.quests.values :=
        List.mem_map_of_mem (Table.mem_of_get? hquest)
      cases hbuild : guide.build with
      | none =>
          rw [hbuild] at hmem
          exact absurd hmem List.not_mem_nil
      | some build =>
          rw [hbuild] at hmem
          obtain ⟨offer, hconsidered, hoffered⟩ := Reward.offered_of_mem_collect hmem
          obtain ⟨hoffer, hnamed⟩ := Quest.mem_considered.mp hconsidered
          exact ⟨build, quest, positions, offer, hbuild, hvalue, List.mem_singleton_self _, hoffer,
            hnamed, hoffered⟩
  | kill | arena | area | enter | town | reminder | waypoint | getWaypoint | setPortal
  | portalToTown | portalBack | questText | generic | trial | ascend | dir | crafting
  | craftingHere => exact absurd hmem List.not_mem_nil

/-- The rewards of a line are justified by what it shows. -/
theorem justified_of_mem_follow {tokens : List Token}
    (h : reward ∈ (follow guide here tokens).rewards) :
    Justified guide (follow guide here tokens).parts reward := by
  induction tokens generalizing here with
  | nil => exact absurd h List.not_mem_nil
  | cons token tokens ih =>
      cases token with
      | literal text => exact (ih h).mono fun _ hpart => List.mem_cons_of_mem _ hpart
      | group fields =>
          rw [follow] at h ⊢
          cases hattempt : attempt guide here fields with
          | ok done after =>
              rw [hattempt] at h
              rcases List.mem_append.mp h with hown | hrest
              · apply ((attempt_eq_ok_iff.mp hattempt).justified reward hown).mono
                intro part hpart
                rw [List.mem_singleton.mp hpart]
                exact List.mem_cons_self
              · exact (ih hrest).mono fun _ hpart => List.mem_cons_of_mem _ hpart
          | error cause after =>
              rw [hattempt] at h
              exact ih h

/-! ## Routes -/

/-- Before each reward of a route stands a line that justifies it, and between the two there is
nothing but rewards. -/
def RewardsFollow (guide : Guide) (route : Route) : Prop :=
  ∀ before reward after, route = before ++ .reward reward :: after →
    ∃ earlier parts between, before = earlier ++ .line parts :: List.map Step.reward between ∧
      Justified guide parts reward

namespace RewardsFollow

variable {route : Route}

theorem append {more : Route} (h : RewardsFollow guide route) (hmore : RewardsFollow guide more) :
    RewardsFollow guide (route ++ more) := by
  intro before reward after heq
  rcases List.append_eq_append_iff.mp heq with ⟨start, rfl, hrest⟩ | ⟨rest, hroute, hrest⟩
  · -- The reward is in the second route.
    obtain ⟨earlier, parts, between, rfl, hjustified⟩ := hmore start reward after hrest
    exact ⟨route ++ earlier, parts, between, (List.append_assoc _ _ _).symm, hjustified⟩
  · cases rest with
    | nil =>
        obtain ⟨earlier, parts, between, hnil, -⟩ := hmore [] reward after hrest.symm
        cases earlier <;> cases hnil
    | cons step rest =>
        rw [List.cons_append] at hrest
        obtain ⟨rfl, -⟩ := List.cons.inj hrest
        exact h before reward rest hroute

/-- No route begins with a reward. -/
theorem head?_ne (h : RewardsFollow guide route) (reward : Reward) :
    route.head? ≠ some (.reward reward) := by
  intro hhead
  obtain ⟨after, hroute⟩ := List.head?_eq_some_iff.mp hhead
  obtain ⟨earlier, parts, between, hnil, -⟩ := h [] reward after hroute
  cases earlier <;> cases hnil

/-- Without a build there are no rewards. -/
theorem notMem_of_build_eq_none (h : RewardsFollow guide route) (hbuild : guide.build = none)
    (reward : Reward) : .reward reward ∉ route := by
  intro hmem
  obtain ⟨before, after, hroute⟩ := List.append_of_mem hmem
  obtain ⟨-, -, -, -, build, -, -, -, hsome, -⟩ := h before reward after hroute
  rw [hbuild] at hsome
  cases hsome

end RewardsFollow

theorem rewardsFollow_steps (line : String) :
    RewardsFollow guide (followLine guide here line).steps := by
  intro before reward after heq
  have hjustified : ∀ reward ∈ (followLine guide here line).rewards,
      Justified guide (followLine guide here line).parts reward :=
    fun _ hmem => justified_of_mem_follow hmem
  generalize followLine guide here line = trail at heq hjustified
  by_cases hcontent : hasContent trail.parts = true
  · rw [Trail.steps, if_pos hcontent, List.singleton_append] at heq
    cases before with
    | nil => cases heq
    | cons step before =>
        rw [List.cons_append] at heq
        obtain ⟨rfl, hrewards⟩ := List.cons.inj heq
        obtain ⟨between, rest, hsplit, rfl, hrest⟩ := List.map_eq_append_iff.mp hrewards
        obtain ⟨_, rest, rfl, hreward, rfl⟩ := List.map_eq_cons_iff.mp hrest
        cases hreward
        have hmem : reward ∈ trail.rewards := by rw [hsplit]; simp
        exact ⟨[], trail.parts, between, rfl, hjustified reward hmem⟩
  · -- A line that shows nothing leads to no rewards.
    rw [Trail.steps, if_neg hcontent, List.nil_append] at heq
    have hmem : Step.reward reward ∈ trail.rewards.map Step.reward := by rw [heq]; simp
    obtain ⟨_, hmem, hreward⟩ := List.mem_map.mp hmem
    cases hreward
    exact absurd (hjustified reward hmem).hasContent hcontent

theorem rewardsFollow_compileLines (lines : List String) :
    RewardsFollow guide (compileLines guide here lines).steps := by
  induction lines generalizing here with
  | nil =>
      intro before reward after heq
      cases before <;> cases heq
  | cons line lines ih =>
      rw [compileLines]
      by_cases hblank : Text.allBlank line.toList = true
      · rw [if_pos hblank]
        exact ih
      · rw [if_neg hblank]
        exact (rewardsFollow_steps line).append ih

theorem rewardsFollow_compileDocuments {documents : List String} :
    ∀ route ∈ (compileDocuments guide here documents).routes, RewardsFollow guide route := by
  induction documents generalizing here with
  | nil => exact fun _ hmem => absurd hmem List.not_mem_nil
  | cons document documents ih =>
      intro route hmem
      rcases List.mem_cons.mp hmem with rfl | hrest
      · exact rewardsFollow_compileLines (Text.lines document)
      · exact ih route hrest

/-- Every reward in the routes of a run stands behind a line, with nothing but rewards in between.
This line shows the hand-in of a quest of the world, and one of the offers that the hand-in names
has the reward for the build: on that side of the offer the gem is there for everyone or for the
class, it comes from the person who makes the offer, and the build wants the gem and notes on it
what the reward says. So no route begins with a reward, and without a build there are none. -/
theorem rewards_are_justified (guide : Guide) (documents : List String) (records : Records) :
    ∀ route ∈ ((recordRun guide documents).run records).1,
      RewardsFollow guide route ∧ (∀ reward, route.head? ≠ some (.reward reward)) ∧
        (guide.build = none → ∀ reward, .reward reward ∉ route) := by
  intro route hmem
  rw [run_recordRun] at hmem
  have hfollow : RewardsFollow guide route := rewardsFollow_compileDocuments route hmem
  exact ⟨hfollow, hfollow.head?_ne, hfollow.notMem_of_build_eq_none⟩

/-- A ruby is wanted twice, and the first note counts. Who plays without a build gets none. -/
theorem the_ruby_of_the_errand_is_justified :
    let build : Build := ⟨"ranger", [⟨"pearl", []⟩, ⟨"ruby", "for the bow"⟩, ⟨"ruby", []⟩]⟩
    let guide := Guide.of Market.world (some build) "gate"
    let records : Records := ⟨.start "square" "square", [], none⟩
    let documents := ["{town} {quest|errand}"]
    let line : Step := .line [.action .town, .text " ", .action (.quest "errand" [])]
    let route := [line, .reward ⟨.quest, "ruby", "smith", some "for the bow"⟩]
    route ∈ ((recordRun guide documents).run records).1 ∧ RewardsFollow guide route ∧
      (∀ reward, route.head? ≠ some (.reward reward)) ∧
      [line] ∈ ((recordRun (.of Market.world none "gate") documents).run records).1 ∧
      ∀ reward, .reward reward ∉ [line] := by
  intro build guide records documents line route
  have hroute : route ∈ ((recordRun guide documents).run records).1 := by decide +kernel
  have hline : [line] ∈ ((recordRun (.of Market.world none "gate") documents).run records).1 := by
    decide +kernel
  obtain ⟨hfollow, hhead, -⟩ := rewards_are_justified guide documents records route hroute
  obtain ⟨-, -, hnone⟩ := rewards_are_justified _ documents records [line] hline
  exact ⟨hroute, hfollow, hhead, hline, hnone rfl⟩

end Walkthrough

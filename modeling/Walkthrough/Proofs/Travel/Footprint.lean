import Walkthrough.Proofs.Travel.Walk
import Walkthrough.Proofs.World.Loaded

/-!
# Footprints

What the groups look at and what they write to. The progress falls into three parts that have
nothing to do with each other: the travels, the crafted areas and the gems. The verbs of travel keep
to the travels, a hand-in keeps to the gems, and the other verbs write to neither.

* `Travels` — the part of the progress that the verbs of travel are about;
* `attempt_beside` — all verbs but two overlook the gems, the crafted areas and the build;
* `KeepsTo` — groups of one kind have a view of the progress to themselves, and
  `KeepsTo.walk_filter`: in that view a walk is the walk along those groups alone;
* `parts_do_not_interfere` — this holds of the verbs of travel and of hand-ins.
-/

namespace Walkthrough

open Walkthrough.Text (Letters)

/-! ## Kinds of groups -/

/-- The verb that a group names. -/
def verbOf? (fields : List String) : Option Verb := fields.head?.bind Verb.ofName?

/-- The verbs that move the traveller or are about waypoints and portals. -/
def Verb.isTravel : Verb → Bool
  | .kill | .enter | .town | .waypoint | .getWaypoint | .setPortal | .usePortal | .ascend => true
  | .arena | .area | .quest | .questText | .generic | .trial | .dir | .crafting => false

def isTravel (fields : List String) : Bool := (verbOf? fields).any Verb.isTravel

def isQuest (fields : List String) : Bool := verbOf? fields == some .quest

theorem verbOf?_cons (verb : Verb) (rest : List String) :
    verbOf? (verb.name :: rest) = some verb :=
  Verb.ofName?_name verb

theorem eq_cons_of_verbOf? {fields : List String} {verb : Verb} (h : verbOf? fields = some verb) :
    ∃ rest, fields = verb.name :: rest := by
  cases fields with
  | nil => cases h
  | cons name rest => exact ⟨rest, by rw [Verb.name_of_ofName? h]⟩

variable {guide : Guide} {here there after : Progress} {fields : List String} {done : Accepted}

theorem Does.verbOf?_eq (h : Does guide here fields done after) :
    verbOf? fields = some done.action.verb := by
  rw [verbOf?, h.head?_fields, Option.bind_some, Verb.ofName?_name]

/-! ## What is written -/

/-- Where the traveller is, and which waypoints they have. -/
structure Travels where
  currentArea : Letters
  lastTown : Letters
  portalArea : Option Letters
  implicit : IdSet
  explicit : IdSet
  used : IdSet
  deriving DecidableEq

def Progress.travels (here : Progress) : Travels :=
  ⟨here.currentArea, here.lastTown, here.portalArea, here.implicit, here.explicit, here.used⟩

/-- Only the verbs of travel write to the travels. -/
theorem Does.travels_eq (h : Does guide here fields done after)
    (hverb : done.action.verb.isTravel = false) : after.travels = here.travels := by
  cases h with
  | kill | enter | town | reminder | waypoint | getWaypoint | setPortal | portalToTown | portalBack
  | ascend => cases hverb
  | arena | area | quest | questText | generic | trial | dir | crafting | craftingHere => rfl

/-- Only crafting writes to the crafted areas. -/
theorem Does.crafted_eq (h : Does guide here fields done after)
    (hverb : done.action.verb ≠ .crafting) : after.crafted = here.crafted := by
  cases h with
  | crafting | craftingHere => exact absurd rfl hverb
  | kill | arena | area | enter | town | reminder | waypoint | getWaypoint | setPortal
  | portalToTown | portalBack | quest | questText | generic | trial | ascend | dir => rfl

/-- Only a hand-in writes to the gems or yields any. -/
theorem Does.gems_eq (h : Does guide here fields done after)
    (hverb : done.action.verb ≠ .quest) : after.gems = here.gems ∧ done.rewards = [] := by
  cases h with
  | quest => exact absurd rfl hverb
  | kill | arena | area | enter | town | reminder | waypoint | getWaypoint | setPortal
  | portalToTown | portalBack | questText | generic | trial | ascend | dir | crafting
  | craftingHere => exact ⟨rfl, rfl⟩

/-! ## What is overlooked -/

def Guide.withBuild (guide : Guide) (build : Option Build) : Guide := { guide with build := build }

@[simp] theorem Guide.world_withBuild (guide : Guide) (build : Option Build) :
    (guide.withBuild build).world = guide.world := rfl

@[simp] theorem Guide.labyrinth_withBuild (guide : Guide) (build : Option Build) :
    (guide.withBuild build).labyrinth = guide.labyrinth := rfl

@[simp] theorem Guide.townOf?_withBuild (guide : Guide) (build : Option Build) (act : Act) :
    (guide.withBuild build).townOf? act = guide.townOf? act := rfl

namespace Progress

/-- The same travels beside other crafted areas and other gems. -/
def beside (here : Progress) (crafted gems : IdSet) : Progress :=
  { here with crafted := crafted, gems := gems }

variable (here : Progress) (crafted gems : IdSet)

@[simp] theorem travels_beside : (here.beside crafted gems).travels = here.travels := rfl

@[simp] theorem currentArea_beside : (here.beside crafted gems).currentArea = here.currentArea :=
  rfl

@[simp] theorem implicit_beside : (here.beside crafted gems).implicit = here.implicit := rfl

@[simp] theorem known_beside : (here.beside crafted gems).known = here.known := rfl

@[simp] theorem openPortal?_beside :
    (here.beside crafted gems).openPortal? = here.openPortal? := rfl

theorem exists_eq_beside {here there : Progress} (h : here.travels = there.travels) :
    ∃ crafted gems, there = here.beside crafted gems := by
  simp only [travels, Travels.mk.injEq] at h
  obtain ⟨hcurrent, htown, hportal, himplicit, hexplicit, hused⟩ := h
  refine ⟨there.crafted, there.gems, ?_⟩
  rw [beside, hcurrent, htown, hportal, himplicit, hexplicit, hused]

end Progress

/-- The outcome with other crafted areas and other gems in the progress. -/
def Outcome.beside (outcome : Outcome) (crafted gems : IdSet) : Outcome :=
  match outcome with
  | .ok done after => .ok done (after.beside crafted gems)
  | .error cause after => .error cause (after.beside crafted gems)

theorem Outcome.verdict_beside (outcome : Outcome) (crafted gems : IdSet) :
    (outcome.beside crafted gems).verdict = outcome.verdict := by
  cases outcome <;> rfl

theorem Outcome.progress_beside (outcome : Outcome) (crafted gems : IdSet) :
    (outcome.beside crafted gems).progress = outcome.progress.beside crafted gems := by
  cases outcome <;> rfl

/-- `Overlooks program`: the program looks neither at the build nor at the crafted areas nor at the
gems, and leaves them as they are. -/
def Overlooks (program : Guide → Attempt Accepted) : Prop :=
  ∀ guide here build crafted gems,
    (program (guide.withBuild build)).run (Progress.beside here crafted gems) =
      Outcome.beside ((program guide).run here) crafted gems

theorem overlooks_performArea (id : Letters) : Overlooks (performArea · id) := by
  intro guide here build crafted gems
  simp only [run_performArea, Guide.world_withBuild]
  cases guide.world.area? id <;> rfl

theorem overlooks_performEnter (id : Letters) : Overlooks (performEnter · id) := by
  intro guide here build crafted gems
  simp only [run_performEnter, Guide.world_withBuild, Progress.currentArea_beside]
  cases guide.world.area? id with
  | none => rfl
  | some area =>
      by_cases hconn : area.isConnectedTo here.currentArea = true
      · simp only [hconn, if_true]; rfl
      · simp only [hconn, Bool.false_eq_true, if_false]; rfl

theorem overlooks_performWaypoint (id : Letters) : Overlooks (performWaypoint · id) := by
  intro guide here build crafted gems
  simp only [run_performWaypoint, Guide.world_withBuild, Progress.currentArea_beside,
    Progress.known_beside]
  cases guide.world.area? id with
  | none => rfl
  | some area =>
      by_cases hknown : area.id ∈ here.known
      · simp only [hknown, if_true]
        cases guide.world.area? here.currentArea with
        | none => rfl
        | some current =>
            simp only []
            cases current.hasWaypoint <;> rfl
      · simp only [hknown, if_false]; rfl

theorem overlooks_performGetWaypoint : Overlooks performGetWaypoint := by
  intro guide here build crafted gems
  simp only [run_performGetWaypoint, Guide.world_withBuild, Progress.currentArea_beside,
    Progress.implicit_beside]
  cases guide.world.area? here.currentArea with
  | none => rfl
  | some area =>
      simp only []
      cases area.hasWaypoint with
      | false => rfl
      | true =>
          by_cases hheld : area.id ∈ here.implicit
          · simp only [hheld, not_true, if_true, if_false]; rfl
          · simp only [hheld, not_false_eq_true, if_true]; rfl

theorem overlooks_performUsePortal : Overlooks performUsePortal := by
  intro guide here build crafted gems
  simp only [run_performUsePortal, Guide.world_withBuild, Guide.townOf?_withBuild,
    Progress.currentArea_beside, Progress.openPortal?_beside]
  cases here.openPortal? with
  | none => rfl
  | some portal =>
      cases guide.world.area? here.currentArea with
      | none => rfl
      | some area =>
          by_cases hportal : area.id = portal
          · simp only [if_pos hportal]
            cases guide.townOf? area.act <;> rfl
          · simp only [if_neg hportal]
            cases area.isTown <;> rfl

theorem overlooks_performAscend : Overlooks performAscend := by
  intro guide here build crafted gems
  simp only [run_performAscend, Guide.world_withBuild, Guide.labyrinth_withBuild,
    Progress.currentArea_beside]
  by_cases hlab : here.currentArea = guide.labyrinth
  · simp only [hlab, if_true]; rfl
  · simp only [hlab, if_false]; rfl

theorem overlooks_performDir (text : String) : Overlooks fun _ => performDir text := by
  intro guide here build crafted gems
  simp only [run_performDir]
  cases readDegrees? text with
  | none => rfl
  | some number =>
      simp only []
      cases Direction.ofNumber? number <;> rfl

/-- All verbs but hand-ins and crafting overlook the build, the crafted areas and the gems. -/
theorem overlooks_perform {verb : Verb} (hquest : verb ≠ .quest) (hcrafting : verb ≠ .crafting)
    (fields : List String) : Overlooks (verb.perform · fields) := by
  -- The programs that look at nothing but the travels do so by definition.
  cases verb <;> rcases fields with _ | ⟨name, _ | ⟨a, _ | ⟨b, rest⟩⟩⟩ <;>
    try exact fun _ _ _ _ _ => rfl
  · exact overlooks_performArea a
  · exact overlooks_performEnter a
  · exact overlooks_performWaypoint a
  · exact overlooks_performGetWaypoint
  · exact overlooks_performUsePortal
  · exact absurd rfl hquest
  · exact absurd rfl hquest
  · exact overlooks_performAscend
  · exact overlooks_performDir a
  · exact absurd rfl hcrafting
  · exact absurd rfl hcrafting
  · exact absurd rfl hcrafting

/-- But for hand-ins and crafting, no group looks at the build, the crafted areas or the gems. -/
theorem attempt_beside (hquest : verbOf? fields ≠ some .quest)
    (hcrafting : verbOf? fields ≠ some .crafting) (build : Option Build) (crafted gems : IdSet) :
    attempt (guide.withBuild build) (here.beside crafted gems) fields =
      (attempt guide here fields).beside crafted gems := by
  cases hverb : verbOf? fields with
  | none =>
      have hname : ∀ verb : Verb, ∀ rest, fields ≠ verb.name :: rest := by
        rintro verb rest rfl
        rw [verbOf?_cons] at hverb
        cases hverb
      rw [attempt_eq_of_no_verb hname, attempt_eq_of_no_verb hname]
      rfl
  | some verb =>
      obtain ⟨rest, rfl⟩ := eq_cons_of_verbOf? hverb
      rw [verbOf?_cons] at hquest hcrafting
      rw [attempt_cons, attempt_cons]
      exact overlooks_perform (fun h => hquest (congrArg some h))
        (fun h => hcrafting (congrArg some h)) _ guide here build crafted gems

/-- What a hand-in yields depends on no part of the progress but the gems, and so do the gems that
are held after it. -/
theorem attempt_quest_eq (hgems : here.gems = there.gems) (rest : List String) :
    (attempt guide here ("quest" :: rest)).verdict =
        (attempt guide there ("quest" :: rest)).verdict ∧
      (attempt guide here ("quest" :: rest)).progress.gems =
        (attempt guide there ("quest" :: rest)).progress.gems := by
  cases rest with
  | nil => exact ⟨rfl, hgems⟩
  | cons key fields =>
      have hhere := (attempt_cons .quest (key :: fields)).trans
        (run_performQuest guide here key fields)
      have hthere := (attempt_cons .quest (key :: fields)).trans
        (run_performQuest guide there key fields)
      rw [Verb.name] at hhere hthere
      rw [hhere, hthere, hgems]
      cases guide.world.quest? key with
      | none => exact ⟨rfl, hgems⟩
      | some quest =>
          simp only []
          cases offerPositions? quest.offers.length fields with
          | none => exact ⟨rfl, hgems⟩
          | some positions => exact ⟨rfl, rfl⟩

/-! ## Keeping to a view -/

/-- A group and what became of it, wherever it was attempted. -/
def Turn.outcome (turn : Turn) : List String × Except Refusal Accepted :=
  (turn.fields, turn.verdict)

/-- What became of the groups of one kind, in turn. -/
def Walk.outcomes (w : Walk) (kind : List String → Bool) :
    List (List String × Except Refusal Accepted) :=
  (w.turns.filter fun turn => kind turn.fields).map Turn.outcome

section Outcomes

variable {kind : List String → Bool} (groups : List (List String))

theorem outcomes_walk_cons_of_pos (h : kind fields = true) :
    (walk guide here (fields :: groups)).outcomes kind =
      (fields, (attempt guide here fields).verdict) ::
        (walk guide (attempt guide here fields).progress groups).outcomes kind := by
  rw [walk_cons]
  exact congrArg (List.map Turn.outcome) (List.filter_cons_of_pos h)

theorem outcomes_walk_cons_of_neg (h : kind fields = false) :
    (walk guide here (fields :: groups)).outcomes kind =
      (walk guide (attempt guide here fields).progress groups).outcomes kind := by
  rw [walk_cons]
  exact congrArg (List.map Turn.outcome) (List.filter_cons_of_neg (Bool.not_eq_true _ ▸ h))

end Outcomes

/-- The groups of one kind have a view of the progress to themselves. -/
structure KeepsTo {α : Type} (guide : Guide) (kind : List String → Bool)
    (view : Progress → α) : Prop where
  /-- What becomes of a group of the kind, and what is seen after it, depends on the view only. -/
  reads : ∀ {here there fields}, kind fields = true → view here = view there →
    (attempt guide here fields).verdict = (attempt guide there fields).verdict ∧
      view (attempt guide here fields).progress = view (attempt guide there fields).progress
  /-- No other group changes what is seen. -/
  writes : ∀ {here fields}, kind fields = false →
    view (attempt guide here fields).progress = view here

/-- In the view of one kind of groups, a walk is the walk along the groups of this kind. -/
theorem KeepsTo.walk_filter {α : Type} {kind : List String → Bool} {view : Progress → α}
    (h : KeepsTo guide kind view) (hview : view here = view there) (groups : List (List String)) :
    (walk guide here groups).outcomes kind =
        (walk guide there (groups.filter kind)).turns.map Turn.outcome ∧
      view (walk guide here groups).progress =
        view (walk guide there (groups.filter kind)).progress := by
  -- The two walks move apart in what is not seen, so the view is all that the induction keeps.
  induction groups generalizing here there with
  | nil => exact ⟨rfl, hview⟩
  | cons fields groups ih =>
      cases hkind : kind fields with
      | true =>
          obtain ⟨hverdict, hafter⟩ := h.reads hkind hview
          obtain ⟨houtcomes, hend⟩ := ih hafter
          rw [List.filter_cons_of_pos hkind, outcomes_walk_cons_of_pos groups hkind, houtcomes,
            hverdict]
          exact ⟨rfl, hend⟩
      | false =>
          have hother : ¬kind fields = true := Bool.not_eq_true _ ▸ hkind
          rw [List.filter_cons_of_neg hother, outcomes_walk_cons_of_neg groups hkind]
          exact ih ((h.writes hkind).trans hview)

/-- What is not accepted writes nothing, so only rules can change what is seen. -/
theorem view_attempt {α : Type} {view : Progress → α}
    (hrule : ∀ {done after}, Does guide here fields done after → view after = view here) :
    view (attempt guide here fields).progress = view here := by
  rcases progress_attempt guide here fields with hsame | ⟨done, hdoes⟩
  · rw [hsame]
  · exact hrule hdoes

theorem keepsTo_travels (guide : Guide) : KeepsTo guide isTravel Progress.travels where
  reads := by
    intro here there fields hkind htravels
    have hother {verb : Verb} (hverb : verb.isTravel = false) : verbOf? fields ≠ some verb := by
      intro h
      rw [isTravel, h, Option.any_some, hverb] at hkind
      cases hkind
    obtain ⟨crafted, gems, rfl⟩ := Progress.exists_eq_beside htravels
    have hthere : attempt guide (here.beside crafted gems) fields =
        (attempt guide here fields).beside crafted gems :=
      attempt_beside (hother rfl) (hother rfl) guide.build crafted gems
    rw [hthere, Outcome.verdict_beside, Outcome.progress_beside, Progress.travels_beside]
    exact ⟨rfl, rfl⟩
  writes := by
    intro here fields hkind
    refine view_attempt fun hdoes => hdoes.travels_eq ?_
    rw [isTravel, hdoes.verbOf?_eq] at hkind
    exact hkind

theorem keepsTo_gems (guide : Guide) : KeepsTo guide isQuest Progress.gems where
  reads := by
    intro here there fields hkind hgems
    obtain ⟨rest, rfl⟩ := eq_cons_of_verbOf? (beq_iff_eq.mp hkind)
    exact attempt_quest_eq hgems rest
  writes := by
    intro here fields hkind
    refine view_attempt fun hdoes => (hdoes.gems_eq ?_).1
    intro hverb
    rw [isQuest, hdoes.verbOf?_eq, hverb] at hkind
    cases hkind

/-! ## No interference -/

/-- Rows that agree once some groups are left out agree for any kind of the groups that remain. -/
theorem filter_eq_of_filter_eq {α : Type} {p q : α → Bool} (himp : ∀ a, p a = true → q a = true)
    {as bs : List α} (h : as.filter q = bs.filter q) : as.filter p = bs.filter p := by
  have hboth : (fun a => p a && q a) = p := by
    funext a
    cases hp : p a with
    | false => rfl
    | true => exact himp a hp
  have hfilter := congrArg (List.filter p) h
  rwa [List.filter_filter, List.filter_filter, hboth] at hfilter

/-- Travelling and handing in do not interfere. What becomes of the groups of travel, and where they
lead, is the same if all other groups are left out, and so it is with hand-ins and the gems they
yield. The groups that are neither can be left out anywhere. -/
theorem parts_do_not_interfere (guide : Guide) (here : Progress) (groups : List (List String)) :
    let w := walk guide here groups
    let travel := walk guide here (groups.filter isTravel)
    let quests := walk guide here (groups.filter isQuest)
    (w.outcomes isTravel = travel.turns.map Turn.outcome ∧
        w.progress.travels = travel.progress.travels) ∧
      (w.outcomes isQuest = quests.turns.map Turn.outcome ∧
        w.progress.gems = quests.progress.gems) ∧
      ∀ fewer : List (List String),
        (fewer.filter fun fields => isTravel fields || isQuest fields) =
          (groups.filter fun fields => isTravel fields || isQuest fields) →
        let v := walk guide here fewer
        (v.outcomes isTravel = w.outcomes isTravel ∧
            v.progress.travels = w.progress.travels) ∧
          (v.outcomes isQuest = w.outcomes isQuest ∧ v.progress.gems = w.progress.gems) := by
  intro w travel quests
  have htravel (row : List (List String)) :=
    (keepsTo_travels guide).walk_filter (rfl : here.travels = here.travels) row
  have hquests (row : List (List String)) :=
    (keepsTo_gems guide).walk_filter (rfl : here.gems = here.gems) row
  refine ⟨htravel groups, hquests groups, ?_⟩
  intro fewer hsame v
  have htravelRow : fewer.filter isTravel = groups.filter isTravel :=
    filter_eq_of_filter_eq (fun fields h => by rw [h]; rfl) hsame
  have hquestRow : fewer.filter isQuest = groups.filter isQuest :=
    filter_eq_of_filter_eq (fun fields h => by rw [h, Bool.or_true]) hsame
  obtain ⟨htravels, hplace⟩ := htravel fewer
  obtain ⟨hhandins, hgems⟩ := hquests fewer
  rw [htravelRow] at htravels hplace
  rw [hquestRow] at hhandins hgems
  exact ⟨⟨htravels.trans (htravel groups).1.symm, hplace.trans (htravel groups).2.symm⟩,
    hhandins.trans (hquests groups).1.symm, hgems.trans (hquests groups).2.symm⟩

theorem crafting_can_be_left_out :
    let guide := Guide.of Market.world (some ⟨"ranger", [⟨"ruby", []⟩]⟩) "gate"
    let here := Progress.start "square" "square"
    let groups := [["enter", "gate"], ["crafting"], ["quest", "errand"], ["dir", "east"], ["town"]]
    let fewer := [["enter", "gate"], ["quest", "errand"], ["town"]]
    (fewer.filter fun fields => isTravel fields || isQuest fields) =
        (groups.filter fun fields => isTravel fields || isQuest fields) ∧
      (walk guide here fewer).progress.travels = (walk guide here groups).progress.travels ∧
      (walk guide here fewer).progress.gems = (walk guide here groups).progress.gems ∧
      (walk guide here groups).progress.gems = IdSet.ofList ["ruby"] := by
  intro guide here groups fewer
  have hsame : (fewer.filter fun fields => isTravel fields || isQuest fields) =
      (groups.filter fun fields => isTravel fields || isQuest fields) := by decide
  obtain ⟨-, -, hfewer⟩ := parts_do_not_interfere guide here groups
  obtain ⟨⟨-, htravels⟩, -, hgems⟩ := hfewer fewer hsame
  exact ⟨hsame, htravels, hgems, by decide⟩

end Walkthrough

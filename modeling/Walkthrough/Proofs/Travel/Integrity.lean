import Walkthrough.Proofs.Travel.Walk
import Walkthrough.Proofs.World.Loaded

/-!
# The integrity of references

Whatever a progress names is there. Where the traveller stands, the last town and the portal are
areas of the world, or one of the two ids that the run was started with; the sets hold areas, and
areas with a waypoint, as they should.

* `Grows` — the five sets lose nothing; `Does.grows` says that every rule keeps to it;
* `Intact` — the invariant, with `Intact.step`;
* `references_stay_intact` — it holds wherever a run leads. So, if a run is started in areas of the
  world, no group fails because the traveller is nowhere.
-/

namespace Walkthrough

open Walkthrough.Text (Letters)

/-! ## The sets grow -/

/-- No set of the first progress has a member that the second one lacks. -/
structure Grows (here after : Progress) : Prop where
  implicit : ∀ id ∈ here.implicit, id ∈ after.implicit
  explicit : ∀ id ∈ here.explicit, id ∈ after.explicit
  used : ∀ id ∈ here.used, id ∈ after.used
  crafted : ∀ id ∈ here.crafted, id ∈ after.crafted
  gems : ∀ id ∈ here.gems, id ∈ after.gems

theorem Grows.refl (here : Progress) : Grows here here :=
  ⟨fun _ h => h, fun _ h => h, fun _ h => h, fun _ h => h, fun _ h => h⟩

namespace Reward

theorem mem_collectSide {characterClass : Letters} {offer : Offer} {side : Side} {id : Letters}
    {gems : List WantedGem} {held : IdSet} (h : id ∈ held) :
    id ∈ (collectSide characterClass offer side gems held).2 := by
  induction gems generalizing held with
  | nil => exact h
  | cons gem gems ih =>
      rw [collectSide]
      by_cases hpick : gem.id ∉ held ∧ isOffered characterClass offer side gem = true
      · rw [if_pos hpick]
        exact ih (IdSet.mem_insert.mpr (.inr h))
      · rw [if_neg hpick]
        exact ih h

theorem mem_collect {build : Build} {id : Letters} {offers : List Offer} {held : IdSet}
    (h : id ∈ held) : id ∈ (collect build offers held).2 := by
  induction offers generalizing held with
  | nil => exact h
  | cons offer offers ih => exact ih (mem_collectSide (mem_collectSide h))

/-- What was held before is held after any hand-in. -/
theorem mem_collectFor {build : Option Build} {id : Letters} {offers : List Offer} {held : IdSet}
    (h : id ∈ held) : id ∈ (collectFor build offers held).2 := by
  cases build with
  | none => exact h
  | some build => exact mem_collect h

end Reward

variable {guide : Guide} {here after : Progress} {fields : List String} {done : Accepted}

theorem Does.grows (h : Does guide here fields done after) : Grows here after := by
  have hrefl := Grows.refl here
  cases h with
  | kill boss =>
      exact { hrefl with implicit := fun id hid => IdSet.mem_insertAll.mpr (.inr hid) }
  | enter _ _ =>
      exact { hrefl with implicit := fun id hid => Progress.mem_implicit_entering.mpr (.inr hid) }
  | waypoint _ _ _ _ =>
      exact { hrefl with
        implicit := fun id hid => IdSet.mem_insert.mpr (.inr hid)
        used := fun id hid => IdSet.mem_insert.mpr (.inr hid) }
  | getWaypoint _ _ _ =>
      exact { hrefl with explicit := fun id hid => IdSet.mem_insert.mpr (.inr hid) }
  | quest _ _ => exact { hrefl with gems := fun id hid => Reward.mem_collectFor hid }
  | crafting _ => exact { hrefl with crafted := fun id hid => IdSet.mem_insert.mpr (.inr hid) }
  | craftingHere _ =>
      exact { hrefl with crafted := fun id hid => IdSet.mem_insert.mpr (.inr hid) }
  | arena | area | reminder | questText | generic | trial | dir => exact hrefl
  | town | setPortal | portalToTown | portalBack | ascend => exact { hrefl with }

theorem grows_attempt (guide : Guide) (here : Progress) (fields : List String) :
    Grows here (attempt guide here fields).progress := by
  rcases progress_attempt guide here fields with hsame | ⟨done, hdoes⟩
  · rw [hsame]
    exact Grows.refl here
  · exact hdoes.grows

/-! ## The invariant -/

/-- Whether an id is one of the two that a run was started with, or the id of an area. -/
def World.IsPlace (world : World) (area town id : Letters) : Prop :=
  id = area ∨ id = town ∨ world.IsArea id

/-- The references of a progress, in a run that was started in `area` with `town` as its last
town. -/
structure Intact (world : World) (area town : Letters) (here : Progress) : Prop where
  currentArea : world.IsPlace area town here.currentArea
  lastTown : here.lastTown = town ∨ world.IsTown here.lastTown
  portalArea : ∀ portal, here.portalArea = some portal → world.IsPlace area town portal
  currentArea_ne_nil : here.currentArea ≠ []
  lastTown_ne_nil : here.lastTown ≠ []
  portalArea_ne_nil : here.portalArea ≠ some []
  explicit : ∀ id ∈ here.explicit, world.IsWaypoint id
  implicit : ∀ id ∈ here.implicit, world.IsWaypoint id ∨ world.IsUnlocked id
  used : ∀ id ∈ here.used, world.IsArea id ∧ (id ∈ here.implicit ∨ id ∈ here.explicit)
  crafted : ∀ id ∈ here.crafted, world.IsArea id

variable {world : World} {build : Option Build} {labyrinth area town : Letters}

theorem Intact.initial (harea : area ≠ []) (htown : town ≠ []) :
    Intact world area town (.start area town) where
  currentArea := .inl rfl
  lastTown := .inl rfl
  portalArea := fun _ h => nomatch h
  currentArea_ne_nil := harea
  lastTown_ne_nil := htown
  portalArea_ne_nil := nofun
  explicit := fun id hid => absurd hid (IdSet.not_mem_empty id)
  implicit := fun id hid => absurd hid (IdSet.not_mem_empty id)
  used := fun id hid => absurd hid (IdSet.not_mem_empty id)
  crafted := fun id hid => absurd hid (IdSet.not_mem_empty id)

/-- The last town is a place like any other. -/
theorem Intact.isPlace_lastTown (h : Intact world area town here) :
    world.IsPlace area town here.lastTown := by
  rcases h.lastTown with heq | htown
  · exact .inr (.inl heq)
  · exact .inr (.inr htown.isArea)

/-- What was used stays among the areas that are known. -/
theorem Intact.used_of_grows (h : Intact world area town here) (hgrows : Grows here after) :
    ∀ id ∈ here.used, world.IsArea id ∧ (id ∈ after.implicit ∨ id ∈ after.explicit) := by
  intro id hid
  obtain ⟨harea, hknown⟩ := h.used id hid
  exact ⟨harea, hknown.imp (hgrows.implicit id) (hgrows.explicit id)⟩

/-- Every rule keeps the references intact. -/
theorem Intact.step (hloaded : world.Loaded) (h : Intact world area town here)
    (hdoes : Does (.of world build labyrinth) here fields done after) :
    Intact world area town after := by
  -- What was used must be known still, so `used` has to be looked at wherever the sets grow.
  have hused := h.used_of_grows hdoes.grows
  cases hdoes with
  | arena | area | reminder | questText | generic | trial | dir => exact h
  | quest => exact { h with }
  | kill boss =>
      have hunlocked : ∀ id ∈ world.unlockedBy boss, world.IsWaypoint id ∨ world.IsUnlocked id :=
        fun _ hid => .inr ⟨boss, hid⟩
      exact { h with
        implicit := IdSet.forall_mem_insertAll.mpr ⟨hunlocked, h.implicit⟩
        used := hused }
  | @enter _ entered harea hconn =>
      have hself := hloaded.area?_self harea
      refine { h with
        currentArea := .inr (.inr ⟨entered, hself⟩)
        lastTown := ?_
        currentArea_ne_nil := hloaded.ne_nil ⟨entered, hself⟩
        lastTown_ne_nil := ?_
        implicit := ?_
        used := hused }
      · rcases here.lastTown_entering entered with ⟨htown, heq⟩ | heq
        · rw [heq]
          exact .inr ⟨entered, hself, htown⟩
        · rw [heq]
          exact h.lastTown
      · rcases here.lastTown_entering entered with ⟨-, heq⟩ | heq
        · rw [heq]
          exact hloaded.ne_nil ⟨entered, hself⟩
        · rw [heq]
          exact h.lastTown_ne_nil
      · intro id hid
        rcases Progress.mem_implicit_entering.mp hid with ⟨-, hway, rfl⟩ | hold
        · exact .inl ⟨entered, hself, hway⟩
        · exact h.implicit id hold
  | town | ascend =>
      exact { h with
        currentArea := h.isPlace_lastTown
        currentArea_ne_nil := h.lastTown_ne_nil }
  | @waypoint _ target current harea hknown hcur hway =>
      have hself := hloaded.area?_self harea
      have horigin : world.IsWaypoint current.id := ⟨current, hloaded.area?_self hcur, hway⟩
      have htarget : target.id ∈ here.implicit.insert current.id ∨ target.id ∈ here.explicit :=
        (Progress.mem_known.mp hknown).imp_left fun hold => IdSet.mem_insert.mpr (.inr hold)
      exact { h with
        currentArea := .inr (.inr ⟨target, hself⟩)
        currentArea_ne_nil := hloaded.ne_nil ⟨target, hself⟩
        implicit := IdSet.forall_mem_insert.mpr ⟨.inl horigin, h.implicit⟩
        used := IdSet.forall_mem_insert.mpr ⟨⟨⟨target, hself⟩, htarget⟩, hused⟩ }
  | @getWaypoint found harea hway hnew =>
      have hfound : world.IsWaypoint found.id := ⟨found, hloaded.area?_self harea, hway⟩
      exact { h with
        explicit := IdSet.forall_mem_insert.mpr ⟨hfound, h.explicit⟩
        used := hused }
  | setPortal =>
      refine { h with portalArea := ?_, portalArea_ne_nil := ?_ }
      · intro portal hportal
        obtain rfl := Option.some.inj hportal
        exact h.currentArea
      · intro hnil
        exact h.currentArea_ne_nil (Option.some.inj hnil)
  | portalToTown hopen harea htown =>
      have hplace := hloaded.isTown_of_towns htown
      exact { h with
        currentArea := .inr (.inr hplace.isArea)
        currentArea_ne_nil := hloaded.ne_nil hplace.isArea }
  | portalBack hopen harea hne htown =>
      obtain ⟨hset, hnil⟩ := Progress.openPortal?_eq_some_iff.mp hopen
      exact { h with
        currentArea := h.portalArea _ hset
        portalArea := fun _ hnone => nomatch hnone
        currentArea_ne_nil := hnil
        portalArea_ne_nil := nofun }
  | @crafting _ found harea | @craftingHere found harea =>
      have hfound : world.IsArea found.id := ⟨found, hloaded.area?_self harea⟩
      exact { h with crafted := IdSet.forall_mem_insert.mpr ⟨hfound, h.crafted⟩ }

/-- Started in areas of the world, a run never leaves the areas of the world. -/
theorem Intact.isArea_currentArea (h : Intact world area town here) (harea : world.IsArea area)
    (htown : world.IsArea town) : world.IsArea here.currentArea := by
  rcases h.currentArea with heq | heq | hin
  · rw [heq]
    exact harea
  · rw [heq]
    exact htown
  · exact hin

/-! ## Groups about the current area -/

/-- The groups that look the current area up: a waypoint is picked up, the portal is used, or
recipes are picked up where the traveller stands. -/
def LooksUpHere (fields : List String) : Prop :=
  fields.head? = some "get_waypoint" ∨ fields.head? = some "use_portal" ∨ fields = ["crafting"]

theorem kind_ne_of_badFormat {cause : Refusal}
    (hrun : attempt guide here fields = .error .badFormat here)
    (h : attempt guide here fields = .error cause after) : cause.kind ≠ .unknownArea := by
  rw [hrun] at h
  injection h with hcause
  rw [← hcause]
  nofun

theorem kind_ne_of_getWaypoint {cause : Refusal} (hcur : guide.world.IsArea here.currentArea)
    (h : attempt guide here ["get_waypoint"] = .error cause after) :
    cause.kind ≠ .unknownArea := by
  obtain ⟨area, harea⟩ := hcur
  have hrun := (attempt_cons .getWaypoint []).trans (run_performGetWaypoint guide here)
  rw [harea] at hrun
  have heq := h.symm.trans hrun
  simp only [] at heq
  split at heq
  · split at heq
    · cases heq
    · cases heq; nofun
  · cases heq; nofun

theorem kind_ne_of_usePortal {cause : Refusal} (hcur : guide.world.IsArea here.currentArea)
    (h : attempt guide here ["use_portal"] = .error cause after) :
    cause.kind ≠ .unknownArea := by
  obtain ⟨area, harea⟩ := hcur
  cases portalRefused_of_attempt h with
  | nowhere _ hnone =>
      rw [harea] at hnone
      cases hnone
  | notSet | noTown | outOfReach => nofun

/-- Where the current area is an area of the world, a group that looks it up finds it. -/
theorem kind_ne_unknownArea {cause : Refusal} (hlook : LooksUpHere fields)
    (hcur : guide.world.IsArea here.currentArea)
    (h : attempt guide here fields = .error cause after) : cause.kind ≠ .unknownArea := by
  rcases hlook with hget | huse | rfl
  · obtain ⟨rest, rfl⟩ := List.head?_eq_some_iff.mp hget
    cases rest with
    | nil => exact kind_ne_of_getWaypoint hcur h
    | cons field rest => exact kind_ne_of_badFormat rfl h
  · obtain ⟨rest, rfl⟩ := List.head?_eq_some_iff.mp huse
    cases rest with
    | nil => exact kind_ne_of_usePortal hcur h
    | cons field rest => exact kind_ne_of_badFormat rfl h
  · obtain ⟨area, harea⟩ := hcur
    rw [attempt_of_does (.craftingHere harea)] at h
    cases h

/-- Wherever a run leads, all references are intact and the next group takes nothing out of the five
sets. If the run was started in areas of the world, then a waypoint that is picked up, a portal that
is used and recipes that are picked up on the spot are never refused because there is no such
area. -/
theorem references_stay_intact {areas unlocks quests : Json} {world : World}
    (hworld : World.ofTables areas unlocks quests = .ok world) (build : Option Build)
    (labyrinth : Letters) {area town : Letters} (harea : area ≠ []) (htown : town ≠ [])
    {here : Progress} (hreach : Reached (.of world build labyrinth) (.start area town) here) :
    Intact world area town here ∧
      (∀ fields, Grows here (attempt (.of world build labyrinth) here fields).progress) ∧
      (world.IsArea area → world.IsArea town → ∀ fields, LooksUpHere fields →
        ∀ cause after, attempt (.of world build labyrinth) here fields = .error cause after →
          cause.kind ≠ .unknownArea) := by
  have hloaded := World.loaded_of_ofTables hworld
  have hintact : Intact world area town here :=
    hreach.invariant (fun h hdoes => h.step hloaded hdoes) (.initial harea htown)
  refine ⟨hintact, fun fields => grows_attempt _ here fields, ?_⟩
  intro hareaIn htownIn fields hlook cause after herror
  exact kind_ne_unknownArea hlook (hintact.isArea_currentArea hareaIn htownIn) herror

theorem references_stay_intact_on_the_shore :
    let guide := Guide.of Hamlet.world none "shore"
    let here := (attempt guide (.start "shore" "hamlet") ["kill", "hermit"]).progress
    World.ofTables Hamlet.areas Hamlet.unlocks .null = .ok Hamlet.world ∧
      Intact Hamlet.world "shore" "hamlet" here ∧
      ∀ cause after, attempt guide here ["get_waypoint"] = .error cause after →
        cause.kind ≠ .unknownArea := by
  intro guide here
  have hshore : Letters.ofString "shore" ≠ [] := by decide
  have hhamlet : Letters.ofString "hamlet" ≠ [] := by decide
  obtain ⟨hintact, -, hfound⟩ := references_stay_intact Hamlet.world_ofTables none "shore"
    hshore hhamlet (.attempt ["kill", "hermit"] .start)
  exact ⟨Hamlet.world_ofTables, hintact, hfound ⟨_, rfl⟩ ⟨_, rfl⟩ ["get_waypoint"] (.inl rfl)⟩

end Walkthrough

import Walkthrough.Proofs.Travel.Walk
import Walkthrough.Proofs.World.Loaded

/-!
# No teleporting

Connections need not lead both ways, and the world may fall apart into several parts. Whatever the
traveller does, they stay in the region that belongs to the start of the run.

* `World.Region` — the region: what the start, the unlocks, the connections and the towns lead to;
* `Within` — the progress names nothing outside the region, with `Within.step`;
* `reached_within_region` — that is so wherever a run leads.
-/

namespace Walkthrough

open Walkthrough.Text (Letters)

/-- The region of a run that was started in `area` with `town` as its last town: the least set of
ids that has all this. -/
inductive World.Region (world : World) (area town : Letters) : Letters → Prop
  | area : world.Region area town area
  | town : world.Region area town town
  | unlocked {id : Letters} (boss : Letters) : id ∈ world.unlockedBy boss →
      world.Region area town id
  /-- An area belongs to it if it can be entered from there. -/
  | road {origin id : Letters} {next : Area} : world.Region area town origin →
      world.area? id = some next → origin ∈ next.neighbours → world.Region area town id
  /-- The town of an act belongs to it with any area of the act. -/
  | townOf {origin id : Letters} {current : Area} : world.Region area town origin →
      world.area? origin = some current → world.towns.of? current.act = some id →
      world.Region area town id

/-- The progress names nothing outside the region. -/
structure Within (world : World) (area town : Letters) (here : Progress) : Prop where
  currentArea : world.Region area town here.currentArea
  lastTown : world.Region area town here.lastTown
  portalArea : ∀ portal, here.portalArea = some portal → world.Region area town portal
  implicit : ∀ id ∈ here.implicit, world.Region area town id
  explicit : ∀ id ∈ here.explicit, world.Region area town id
  used : ∀ id ∈ here.used, world.Region area town id

variable {world : World} {build : Option Build} {labyrinth area town : Letters}
variable {here after : Progress} {fields : List String} {done : Accepted}

theorem Within.initial : Within world area town (.start area town) where
  currentArea := .area
  lastTown := .town
  portalArea := fun _ h => nomatch h
  implicit := fun id hid => absurd hid (IdSet.not_mem_empty id)
  explicit := fun id hid => absurd hid (IdSet.not_mem_empty id)
  used := fun id hid => absurd hid (IdSet.not_mem_empty id)

theorem Within.known (h : Within world area town here) {id : Letters} (hid : id ∈ here.known) :
    world.Region area town id := by
  rcases Progress.mem_known.mp hid with himp | hexp
  · exact h.implicit id himp
  · exact h.explicit id hexp

/-- Every rule stays in the region. -/
theorem Within.step (hloaded : world.Loaded) (h : Within world area town here)
    (hdoes : Does (.of world build labyrinth) here fields done after) :
    Within world area town after := by
  cases hdoes with
  | arena | area | reminder | questText | generic | trial | dir => exact h
  | quest | crafting | craftingHere => exact { h with }
  | kill boss =>
      have hunlocked : ∀ id ∈ world.unlockedBy boss, world.Region area town id :=
        fun _ hid => .unlocked boss hid
      exact { h with implicit := IdSet.forall_mem_insertAll.mpr ⟨hunlocked, h.implicit⟩ }
  | @enter _ entered harea hconn =>
      have hroad : world.Region area town entered.id :=
        .road h.currentArea (hloaded.area?_self harea) (List.contains_iff_mem.mp hconn)
      refine { h with currentArea := hroad, lastTown := ?_, implicit := ?_ }
      · rcases here.lastTown_entering entered with ⟨-, heq⟩ | heq
        · rw [heq]
          exact hroad
        · rw [heq]
          exact h.lastTown
      · intro id hid
        rcases Progress.mem_implicit_entering.mp hid with ⟨-, -, rfl⟩ | hold
        · exact hroad
        · exact h.implicit id hold
  | town | ascend => exact { h with currentArea := h.lastTown }
  | @waypoint _ target current harea hknown hcur hway =>
      have htarget : world.Region area town target.id := h.known hknown
      have horigin : world.Region area town current.id := by
        rw [hloaded.id_eq hcur]
        exact h.currentArea
      exact { h with
        currentArea := htarget
        implicit := IdSet.forall_mem_insert.mpr ⟨horigin, h.implicit⟩
        used := IdSet.forall_mem_insert.mpr ⟨htarget, h.used⟩ }
  | @getWaypoint found harea hway hnew =>
      have hfound : world.Region area town found.id := by
        rw [hloaded.id_eq harea]
        exact h.currentArea
      exact { h with explicit := IdSet.forall_mem_insert.mpr ⟨hfound, h.explicit⟩ }
  | setPortal =>
      refine { h with portalArea := ?_ }
      intro portal hportal
      obtain rfl := Option.some.inj hportal
      exact h.currentArea
  | portalToTown hopen harea htown =>
      exact { h with currentArea := .townOf h.currentArea harea htown }
  | portalBack hopen harea hne htown =>
      obtain ⟨hset, -⟩ := Progress.openPortal?_eq_some_iff.mp hopen
      exact { h with
        currentArea := h.portalArea _ hset
        portalArea := fun _ hnone => nomatch hnone }

/-- Wherever a run leads, where the traveller is, the last town, the portal and all waypoints are in
the region that belongs to the start of the run. -/
theorem reached_within_region {areas unlocks quests : Json} {world : World}
    (hworld : World.ofTables areas unlocks quests = .ok world) (build : Option Build)
    (labyrinth area town : Letters) {here : Progress}
    (hreach : Reached (.of world build labyrinth) (.start area town) here) :
    Within world area town here := by
  have hloaded := World.loaded_of_ofTables hworld
  exact hreach.invariant (fun h hdoes => h.step hloaded hdoes) .initial

theorem reached_within_region_of_the_hamlet :
    let guide := Guide.of Hamlet.world none "shore"
    let here := (attempt guide (.start "hamlet" "hamlet") ["enter", "shore"]).progress
    World.ofTables Hamlet.areas Hamlet.unlocks .null = .ok Hamlet.world ∧
      here.currentArea = "shore" ∧ Within Hamlet.world "hamlet" "hamlet" here := by
  intro guide here
  exact ⟨Hamlet.world_ofTables, by decide, reached_within_region Hamlet.world_ofTables none "shore"
    "hamlet" "hamlet" (.attempt ["enter", "shore"] .start)⟩

end Walkthrough

import Walkthrough.Proofs.Travel.Walk
import Walkthrough.Proofs.World.Review

/-!
# Travelling in a sound world

The rules never check that a waypoint that came with something else is there, nor that the act of a
portal has a town. In a world with which nothing is wrong there is no need to.

* `Charted` — all waypoints of the progress are areas with a waypoint, with `Charted.step`;
* `attempt_usePortal_ne_actHasNoTown` — no use of the portal is refused for want of a town;
* `Charted.run_back` — whoever travels by waypoint may travel back at once;
* `clean_review_is_reliable` — all this holds wherever a run leads, if a review finds nothing.
-/

namespace Walkthrough

open Walkthrough.Text (Letters)

/-- All waypoints of the progress are areas with a waypoint. -/
structure Charted (world : World) (here : Progress) : Prop where
  implicit : ∀ id ∈ here.implicit, world.IsWaypoint id
  explicit : ∀ id ∈ here.explicit, world.IsWaypoint id
  used : ∀ id ∈ here.used, world.IsWaypoint id

variable {guide : Guide} {here after : Progress} {fields : List String} {done : Accepted}
variable {world : World} {build : Option Build} {labyrinth : Letters}

theorem Charted.initial (area town : Letters) : Charted world (.start area town) where
  implicit := fun id hid => absurd hid (IdSet.not_mem_empty id)
  explicit := fun id hid => absurd hid (IdSet.not_mem_empty id)
  used := fun id hid => absurd hid (IdSet.not_mem_empty id)

theorem Charted.isWaypoint_of_known (h : Charted world here) {id : Letters}
    (hid : id ∈ here.known) : world.IsWaypoint id := by
  rcases Progress.mem_known.mp hid with himplicit | hexplicit
  · exact h.implicit id himplicit
  · exact h.explicit id hexplicit

/-- In a sound world every rule keeps to areas with a waypoint. -/
theorem Charted.step (hloaded : guide.world.Loaded) (hsound : guide.world.Sound)
    (h : Charted guide.world here) (hdoes : Does guide here fields done after) :
    Charted guide.world after := by
  cases hdoes with
  | arena | area | reminder | questText | generic | trial | dir => exact h
  | town | setPortal | portalToTown | portalBack | quest | ascend | crafting | craftingHere =>
      exact { h with }
  | kill boss =>
      -- A kill checks nothing: that its waypoints are there is the review's doing.
      have hunlocked : ∀ id ∈ guide.world.unlockedBy boss, guide.world.IsWaypoint id :=
        fun _ hid => hsound.isWaypoint_of_unlockedBy hid
      exact { h with implicit := IdSet.forall_mem_insertAll.mpr ⟨hunlocked, h.implicit⟩ }
  | @enter _ entered harea hconn =>
      refine { h with implicit := ?_ }
      intro id hid
      rcases Progress.mem_implicit_entering.mp hid with ⟨-, hway, rfl⟩ | hold
      · exact ⟨entered, hloaded.area?_self harea, hway⟩
      · exact h.implicit id hold
  | @waypoint _ target current harea hknown hcur hway =>
      have horigin : guide.world.IsWaypoint current.id :=
        ⟨current, hloaded.area?_self hcur, hway⟩
      have htarget : guide.world.IsWaypoint target.id := h.isWaypoint_of_known hknown
      exact { h with
        implicit := IdSet.forall_mem_insert.mpr ⟨horigin, h.implicit⟩
        used := IdSet.forall_mem_insert.mpr ⟨htarget, h.used⟩ }
  | @getWaypoint found harea hway hnew =>
      have hfound : guide.world.IsWaypoint found.id := ⟨found, hloaded.area?_self harea, hway⟩
      exact { h with explicit := IdSet.forall_mem_insert.mpr ⟨hfound, h.explicit⟩ }

/-! ## Portals and ways back -/

/-- Where the act of the current area has a town, no use of the portal is refused for want of
one. -/
theorem attempt_usePortal_ne_actHasNoTown (rest : List String) {act : Act} {id : Letters}
    (htown : ∀ area, guide.world.area? here.currentArea = some area →
      ∃ town, guide.townOf? area.act = some town) :
    attempt guide here ("use_portal" :: rest) ≠ .error (.actHasNoTown act id) after := by
  intro h
  cases rest with
  | cons field rest =>
      have hformat : attempt guide here ("use_portal" :: field :: rest) =
          .error .badFormat here := rfl
      rw [hformat] at h
      cases h
  | nil =>
      cases portalRefused_of_attempt h with
      | noTown _ harea hnone =>
          obtain ⟨town, htown⟩ := htown _ harea
          rw [htown] at hnone
          cases hnone

/-- An accepted journey by waypoint leads from the current area to one whose waypoint is known. -/
theorem Does.travelling_of_waypoint {target : String}
    (h : Does guide here ["waypoint", target] done after) :
    ∃ origin arrival, guide.world.area? here.currentArea = some origin ∧
      arrival.id ∈ here.known ∧ after = here.travelling origin arrival := by
  generalize hfields : ["waypoint", target] = fields at h
  cases h with
  | waypoint harea hknown hcur hway => exact ⟨_, _, hcur, hknown, rfl⟩
  | _ => simp at hfields

/-- Whoever has travelled by waypoint may travel back at once. The area to travel back to is given
by its letters here, since a group can only name it if they are characters. -/
theorem Charted.run_back (hloaded : guide.world.Loaded) (h : Charted guide.world here)
    {target : String} (hthere : attempt guide here ["waypoint", target] = .ok done after) :
    ∃ back, (performWaypoint guide here.currentArea).run after =
        .ok ⟨.waypoint (some here.currentArea), []⟩ back ∧
      back.currentArea = here.currentArea := by
  obtain ⟨origin, arrival, hcur, hknown, rfl⟩ :=
    (attempt_eq_ok_iff.mp hthere).travelling_of_waypoint
  have horigin : origin.id = here.currentArea := hloaded.id_eq hcur
  -- The waypoint that was used is known now, and the one that was travelled to is really there.
  have hback : origin.id ∈ (here.travelling origin arrival).known :=
    Progress.mem_known.mpr (.inl (IdSet.mem_insert.mpr (.inl rfl)))
  obtain ⟨found, hfound, hstand⟩ := h.isWaypoint_of_known hknown
  have hhere : guide.world.area? (here.travelling origin arrival).currentArea = some found := hfound
  refine ⟨(here.travelling origin arrival).travelling found origin, ?_, horigin⟩
  rw [run_performWaypoint]
  simp only [hcur, hhere]
  rw [if_pos hback, if_pos hstand, horigin]

/-! ## A clean review -/

/-- If a review finds nothing wrong with a world, then wherever a run leads all its waypoints are
areas with a waypoint, no use of the portal is refused because an act has no town, and after every
journey by waypoint the journey back is accepted and ends where the first one began. -/
theorem clean_review_is_reliable {areas unlocks quests : Json} {world : World}
    (hworld : World.ofTables areas unlocks quests = .ok world) (hclean : world.review = [])
    (build : Option Build) (labyrinth area town : Letters) {here : Progress}
    (hreach : Reached (.of world build labyrinth) (.start area town) here) :
    let guide := Guide.of world build labyrinth
    (∀ id, id ∈ here.implicit ∨ id ∈ here.explicit ∨ id ∈ here.used → world.IsWaypoint id) ∧
      (∀ rest act id after,
        attempt guide here ("use_portal" :: rest) ≠ .error (.actHasNoTown act id) after) ∧
      ∀ target done after, attempt guide here ["waypoint", target] = .ok done after →
        ∃ back, back.currentArea = here.currentArea ∧
          (performWaypoint guide here.currentArea).run after =
            .ok ⟨.waypoint (some here.currentArea), []⟩ back ∧
          ∀ origin : String, Letters.ofString origin = here.currentArea →
            attempt guide after ["waypoint", origin] =
              .ok ⟨.waypoint (some here.currentArea), []⟩ back := by
  intro guide
  have hloaded : guide.world.Loaded := World.loaded_of_ofTables hworld
  have hsound : guide.world.Sound := World.review_eq_nil_iff.mp hclean
  have hcharted : Charted guide.world here :=
    hreach.invariant (fun h hdoes => h.step hloaded hsound hdoes) (.initial area town)
  refine ⟨?_, ?_, ?_⟩
  · rintro id (himplicit | hexplicit | hused)
    · exact hcharted.implicit id himplicit
    · exact hcharted.explicit id hexplicit
    · exact hcharted.used id hused
  · intro rest act id after
    exact attempt_usePortal_ne_actHasNoTown rest fun area harea => hsound.townOf_area harea
  · intro target done after hthere
    obtain ⟨back, hrun, hend⟩ := hcharted.run_back hloaded hthere
    refine ⟨back, hend, hrun, ?_⟩
    intro origin horigin
    rw [← horigin] at hrun ⊢
    exact (attempt_cons .waypoint [origin]).trans hrun

theorem clean_review_is_reliable_on_the_ferry :
    let guide := Guide.of Ferry.world none "maze"
    let here := (attempt guide (.start "pier" "isle") ["kill", "ferryman"]).progress
    let there := (attempt guide here ["waypoint", "isle"]).progress
    World.ofTables Ferry.areas Ferry.unlocks .null = .ok Ferry.world ∧ Ferry.world.review = [] ∧
      there.currentArea = "isle" ∧
      ∃ back : Progress, back.currentArea = "pier" ∧
        attempt guide there ["waypoint", "pier"] =
          .ok ⟨.waypoint (some (Letters.ofString "pier")), []⟩ back := by
  intro guide here there
  have hthere : attempt guide here ["waypoint", "isle"] =
      .ok ⟨.waypoint (some (Letters.ofString "isle")), []⟩ there := rfl
  obtain ⟨back, hend, -, hback⟩ := (clean_review_is_reliable Ferry.world_ofTables
    Ferry.review_world none "maze" "pier" "isle" (.attempt ["kill", "ferryman"] .start)).2.2
    "isle" _ there hthere
  exact ⟨Ferry.world_ofTables, Ferry.review_world, by decide, back, hend, hback "pier" rfl⟩

end Walkthrough

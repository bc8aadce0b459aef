import Walkthrough.Proofs.Travel.Walk
import Walkthrough.Proofs.World.Loaded

/-!
# Where knowledge comes from

A waypoint is known because of something that was done: a kill, a town that was entered, a waypoint
that was used or one that was picked up.

* `Teaches` — an accepted group teaches an id, where it was attempted;
* `Does.mem_known_iff` — after a rule what was known is known, and what was taught, and no more;
* `known_iff_taught` — what is known after a walk is what its accepted groups have taught.
-/

namespace Walkthrough

open Walkthrough.Text (Letters)

/-- Whether a group teaches an id, if it is accepted where the progress is `here`. -/
def Teaches (guide : Guide) (here : Progress) (id : Letters) : List String → Prop
  | ["kill", boss] => id ∈ guide.world.unlockedBy boss
  | ["enter", name] => id = name ∧
    ∃ area, guide.world.area? id = some area ∧ area.isTown = true ∧ area.hasWaypoint = true
  -- Whoever leaves an area by its waypoint knows that waypoint.
  | ["waypoint", _] => here.currentArea = id
  | ["get_waypoint"] => here.currentArea = id
  | _ => False

/-- Whether one of the accepted groups of a walk has taught an id. -/
def Taught (guide : Guide) (turns : List Turn) (id : Letters) : Prop :=
  ∃ turn ∈ turns, turn.isAccepted = true ∧ Teaches guide turn.here id turn.fields

variable {guide : Guide} {here after : Progress} {fields : List String} {done : Accepted}
variable {id : Letters}

private theorem mem_known_of_implicit {p : Prop} (hexplicit : after.explicit = here.explicit)
    (h : id ∈ after.implicit ↔ p ∨ id ∈ here.implicit) :
    id ∈ after.known ↔ id ∈ here.known ∨ p := by
  rw [Progress.mem_known, Progress.mem_known, h, hexplicit, or_assoc, or_comm]

private theorem mem_known_of_explicit {p : Prop} (himplicit : after.implicit = here.implicit)
    (h : id ∈ after.explicit ↔ p ∨ id ∈ here.explicit) :
    id ∈ after.known ↔ id ∈ here.known ∨ p := by
  rw [Progress.mem_known, Progress.mem_known, h, himplicit, or_left_comm, or_comm]

/-- After a rule what was known is known, and what the group teaches, and no more. -/
theorem Does.mem_known_iff (hloaded : guide.world.Loaded)
    (h : Does guide here fields done after) :
    id ∈ after.known ↔ id ∈ here.known ∨ Teaches guide here id fields := by
  cases h with
  | kill boss => exact mem_known_of_implicit rfl IdSet.mem_insertAll
  | @enter name area harea hconn =>
      have hknown : id ∈ (here.entering area).known ↔
          id ∈ here.known ∨ (area.isTown = true ∧ area.hasWaypoint = true ∧ id = area.id) :=
        mem_known_of_implicit rfl Progress.mem_implicit_entering
      rw [hknown]
      refine or_congr_right ⟨?_, ?_⟩
      · rintro ⟨htown, hway, rfl⟩
        exact ⟨hloaded.id_eq harea, area, hloaded.area?_self harea, htown, hway⟩
      · rintro ⟨rfl, area', harea', htown, hway⟩
        rw [harea] at harea'
        obtain rfl := Option.some.inj harea'
        exact ⟨htown, hway, (hloaded.id_eq harea).symm⟩
  | @waypoint target area current harea hknown hcur hway =>
      refine mem_known_of_implicit rfl ?_
      show id ∈ here.implicit.insert current.id ↔ here.currentArea = id ∨ id ∈ here.implicit
      rw [IdSet.mem_insert, hloaded.id_eq hcur, eq_comm]
  | @getWaypoint area harea hway hnew =>
      refine mem_known_of_explicit rfl ?_
      show id ∈ here.explicit.insert area.id ↔ here.currentArea = id ∨ id ∈ here.explicit
      rw [IdSet.mem_insert, hloaded.id_eq harea, eq_comm]
  -- The other rules leave the two sets alone, and their groups teach nothing.
  | arena | area | town | reminder | setPortal | portalToTown | portalBack | questText | generic
  | trial | ascend | dir | crafting | craftingHere | quest =>
      exact (or_iff_left fun hteaches => by simp [Teaches] at hteaches).symm

/-- What a walk leaves known was known at its start, or one of its accepted groups has taught it. -/
theorem mem_known_walk_iff (hloaded : guide.world.Loaded) (groups : List (List String)) :
    id ∈ (walk guide here groups).progress.known ↔
      id ∈ here.known ∨ Taught guide (walk guide here groups).turns id :=
  walk_history (fun hdoes => hdoes.mem_known_iff hloaded) groups

/-- Nobody travels to a waypoint that is not known. -/
theorem attempt_waypoint_of_not_known (hloaded : guide.world.Loaded) {target : String}
    (h : Letters.ofString target ∉ here.known) :
    ∃ cause, attempt guide here ["waypoint", target] = .error cause here := by
  have hrun := (attempt_cons .waypoint [target]).trans (run_performWaypoint guide here target)
  cases harea : guide.world.area? target with
  | none => rw [harea] at hrun; exact ⟨_, hrun⟩
  | some area =>
      simp only [harea] at hrun
      rw [if_neg (by rw [hloaded.id_eq harea]; exact h)] at hrun
      exact ⟨_, hrun⟩

/-- After any groups the known waypoints are exactly those that some accepted group has taught: by a
kill that unlocks them, by entering them as towns, by leaving them by waypoint or by picking them
up. Whoever wants to travel to any other id is refused, and nothing changes. The same holds of
documents, since they lead where their groups lead. -/
theorem known_iff_taught {areas unlocks quests : Json} {world : World}
    (hworld : World.ofTables areas unlocks quests = .ok world) (build : Option Build)
    (labyrinth area town : Letters) (groups : List (List String)) :
    let guide := Guide.of world build labyrinth
    let w := walk guide (.start area town) groups
    (∀ id, id ∈ w.progress.known ↔ Taught guide w.turns id) ∧
      (∀ target : String, ¬Taught guide w.turns target →
        ∃ cause, attempt guide w.progress ["waypoint", target] = .error cause w.progress) ∧
      ∀ documents, documents.flatMap groupsOfDocument = groups →
        (compile guide (.start area town) documents).progress = w.progress := by
  intro guide w
  have hloaded : guide.world.Loaded := World.loaded_of_ofTables hworld
  have hknown (id : Letters) : id ∈ w.progress.known ↔ Taught guide w.turns id := by
    have hstart : id ∉ (Progress.start area town).known := by
      rw [Progress.mem_known]
      exact not_or_intro (IdSet.not_mem_empty id) (IdSet.not_mem_empty id)
    exact (mem_known_walk_iff hloaded groups).trans (or_iff_right hstart)
  refine ⟨hknown, ?_, ?_⟩
  · intro target hnever
    exact attempt_waypoint_of_not_known hloaded fun hid => hnever ((hknown target).mp hid)
  · rintro documents rfl
    exact compile_progress_eq_walk guide _ documents

theorem hermit_teaches_the_shore :
    let guide := Guide.of Hamlet.world none "shore"
    let w := walk guide (.start "hamlet" "hamlet") [["kill", "hermit"]]
    World.ofTables Hamlet.areas Hamlet.unlocks .null = .ok Hamlet.world ∧
      Taught guide w.turns "shore" ∧ ¬Taught guide w.turns "hamlet" := by
  intro guide w
  have hknown := (known_iff_taught Hamlet.world_ofTables none "shore" "hamlet" "hamlet"
    [["kill", "hermit"]]).1
  exact ⟨Hamlet.world_ofTables, (hknown _).mp (by decide),
    fun htaught => absurd ((hknown _).mpr htaught) (by decide)⟩

end Walkthrough

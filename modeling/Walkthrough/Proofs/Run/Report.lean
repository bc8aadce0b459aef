import Walkthrough.Proofs.Run.Account
import Walkthrough.Proofs.World.Loaded

/-!
# What was left undone

At the end of a run it is reported which waypoints were picked up in vain, and where recipes were
never picked up. The report looks at three sets that the run has gathered. Each of them is a record
of one kind of event, and so the report can be told from the accepted groups alone.

* `PicksUp`, `TravelsTo`, `CraftsIn` — the three kinds of events;
* `Does.mem_explicit_iff` and its siblings — the set grows by its events and by nothing else;
* `mem_unused_walk_iff`, `mem_missingAreas_walk_iff` — what is reported, by what has happened;
* `report_is_exact` — the report of a run.
-/

namespace Walkthrough

open Walkthrough.Text (Letters)

/-! ## Events -/

/-- Whether a group picks up the waypoint of an area. -/
def PicksUp (id : Letters) (here : Progress) : List String → Prop
  | ["get_waypoint"] => here.currentArea = id
  | _ => False

/-- Whether a group travels to an area by waypoint. -/
def TravelsTo (id : Letters) (_ : Progress) : List String → Prop
  | ["waypoint", target] => Letters.ofString target = id
  | _ => False

/-- Whether a group picks up the recipes of an area, be it the one that is named or, if none is, the
current one. -/
def CraftsIn (id : Letters) (here : Progress) : List String → Prop
  | ["crafting", name] => Letters.ofString name = id
  | ["crafting"] => here.currentArea = id
  | _ => False

variable {guide : Guide} {here after : Progress} {fields : List String} {done : Accepted}
variable {id area town : Letters}

/-- What is noted of an area is the id that it was found under. -/
theorem World.Loaded.mem_insert_iff {world : World} (hloaded : world.Loaded) {place : Area}
    {key : Letters} (h : world.area? key = some place) {ids : IdSet} :
    id ∈ ids.insert place.id ↔ id ∈ ids ∨ key = id := by
  rw [IdSet.mem_insert, hloaded.id_eq h, or_comm, eq_comm]

theorem Does.mem_explicit_iff (hloaded : guide.world.Loaded)
    (h : Does guide here fields done after) :
    id ∈ after.explicit ↔ id ∈ here.explicit ∨ PicksUp id here fields := by
  cases h with
  | getWaypoint harea hway hnew => exact hloaded.mem_insert_iff harea
  | kill | arena | area | enter | town | reminder | waypoint | setPortal | portalToTown
  | portalBack | questText | generic | trial | ascend | dir | crafting | craftingHere | quest =>
      exact (or_iff_left fun hpicks => by simp [PicksUp] at hpicks).symm

theorem Does.mem_used_iff (hloaded : guide.world.Loaded)
    (h : Does guide here fields done after) :
    id ∈ after.used ↔ id ∈ here.used ∨ TravelsTo id here fields := by
  cases h with
  | waypoint harea hknown hcur hway => exact hloaded.mem_insert_iff harea
  | kill | arena | area | enter | town | reminder | getWaypoint | setPortal | portalToTown
  | portalBack | questText | generic | trial | ascend | dir | crafting | craftingHere | quest =>
      exact (or_iff_left fun htravels => by simp [TravelsTo] at htravels).symm

theorem Does.mem_crafted_iff (hloaded : guide.world.Loaded)
    (h : Does guide here fields done after) :
    id ∈ after.crafted ↔ id ∈ here.crafted ∨ CraftsIn id here fields := by
  cases h with
  | crafting harea => exact hloaded.mem_insert_iff harea
  | craftingHere harea => exact hloaded.mem_insert_iff harea
  | kill | arena | area | enter | town | reminder | waypoint | getWaypoint | setPortal
  | portalToTown | portalBack | questText | generic | trial | ascend | dir | quest =>
      exact (or_iff_left fun hcrafts => by simp [CraftsIn] at hcrafts).symm

/-! ## What is reported -/

/-- A waypoint was picked up in vain if it was picked up and never travelled to, in whatever
order. -/
theorem mem_unused_walk_iff (hloaded : guide.world.Loaded) (groups : List (List String)) :
    id ∈ (walk guide (.start area town) groups).progress.unused ↔
      Happened (PicksUp id) (walk guide (.start area town) groups).turns ∧
        ¬Happened (TravelsTo id) (walk guide (.start area town) groups).turns := by
  rw [Progress.unused, IdSet.mem_diff]
  have hexplicit := @walk_history guide (.start area town) (id ∈ ·.explicit) (PicksUp id)
    (fun hdoes => hdoes.mem_explicit_iff hloaded) groups
  have hused := @walk_history guide (.start area town) (id ∈ ·.used) (TravelsTo id)
    (fun hdoes => hdoes.mem_used_iff hloaded) groups
  exact and_congr (hexplicit.trans (or_iff_right (IdSet.not_mem_empty id)))
    (not_congr (hused.trans (or_iff_right (IdSet.not_mem_empty id))))

/-- The areas with recipes where none were picked up, in the order of the table. -/
def missingAreas (world : World) (progress : Progress) : List Area :=
  world.craftingAreas.filter fun area => area.id ∉ progress.crafted

theorem missingAreas_sublist (world : World) (progress : Progress) :
    (missingAreas world progress).Sublist world.areas.values :=
  List.filter_sublist.trans List.filter_sublist

theorem mem_missingAreas {world : World} {progress : Progress} {place : Area} :
    place ∈ missingAreas world progress ↔
      place ∈ world.areas.values ∧ place.recipes ≠ [] ∧ place.id ∉ progress.crafted := by
  rw [missingAreas, World.craftingAreas, List.mem_filter, List.mem_filter, and_assoc]
  simp

theorem mem_missingAreas_walk_iff (hloaded : guide.world.Loaded) {place : Area}
    (groups : List (List String)) :
    place ∈ missingAreas guide.world (walk guide (.start area town) groups).progress ↔
      place ∈ guide.world.areas.values ∧ place.recipes ≠ [] ∧
        ¬Happened (CraftsIn place.id) (walk guide (.start area town) groups).turns := by
  have hcrafted := @walk_history guide (.start area town) (place.id ∈ ·.crafted)
    (CraftsIn place.id) (fun hdoes => hdoes.mem_crafted_iff hloaded) groups
  rw [mem_missingAreas, hcrafted.trans (or_iff_right (IdSet.not_mem_empty place.id))]

/-- No refusal is of the kind of a finding. -/
theorem kind_ne_of_mem_refusedDiagnostics {refusals : List (List String × Refusal)}
    {diagnostic : Diagnostic} (h : diagnostic ∈ refusedDiagnostics refusals) :
    diagnostic.kind ≠ .unusedWaypoint ∧ diagnostic.kind ≠ .missingCraftingArea := by
  obtain ⟨⟨fields, cause⟩, -, rfl⟩ := List.mem_map.mp h
  cases cause <;> exact ⟨nofun, nofun⟩

/-- The report of a run tells what its accepted groups have left undone. After the refused groups it
names the waypoints that were picked up and never travelled to, each once and in the order of their
ids, and then the areas with recipes where none were picked up, each once and in the order of the
table. Nothing else is reported as such, and to report changes nothing. -/
theorem report_is_exact {areas unlocks quests : Json} {world : World}
    (hworld : World.ofTables areas unlocks quests = .ok world) (build : Option Build)
    (labyrinth area town : Letters) (documents : List String) :
    let guide := Guide.of world build labyrinth
    let run := compile guide (.start area town) documents
    let w := walk guide (.start area town) (documents.flatMap groupsOfDocument)
    let refused := refusedDiagnostics (w.turns.filterMap Turn.refusal?)
    ∃ (unused : List Letters) (missing : List Area),
      (run.diagnostics = refused ++ unused.map (fun id => .found (.unusedWaypoint id)) ++
        missing.map fun place => .found (.missingCrafting place.id place.recipes)) ∧
      (∀ diagnostic ∈ refused,
        diagnostic.kind ≠ .unusedWaypoint ∧ diagnostic.kind ≠ .missingCraftingArea) ∧
      (unused.Pairwise (· < ·) ∧ ∀ id, id ∈ unused ↔
        Happened (PicksUp id) w.turns ∧ ¬Happened (TravelsTo id) w.turns) ∧
      (missing.Sublist world.areas.values ∧ (missing.map Area.id).Nodup ∧
        ∀ place, place ∈ missing ↔ place ∈ world.areas.values ∧ place.recipes ≠ [] ∧
          ¬Happened (CraftsIn place.id) w.turns) ∧
      run.progress = w.progress := by
  intro guide run w refused
  have hloaded : guide.world.Loaded := World.loaded_of_ofTables hworld
  have hprogress : run.progress = w.progress := compile_progress_eq_walk guide _ documents
  have hrefusals : run.refusals = w.turns.filterMap Turn.refusal? := refusals_eq_walk documents
  have hsublist : (missingAreas world run.progress).Sublist world.areas.values :=
    missingAreas_sublist world run.progress
  refine ⟨run.progress.unused.toList, missingAreas world run.progress, ?_, ?_, ?_, ?_, hprogress⟩
  · have hfindings : run.findings.map Diagnostic.found =
        run.progress.unused.toList.map (fun id => .found (.unusedWaypoint id)) ++
          (missingAreas world run.progress).map fun place =>
            .found (.missingCrafting place.id place.recipes) := by
      show (findings world run.progress).map Diagnostic.found = _
      rw [findings, List.map_append, unusedWaypoints, List.map_map, missingCrafting, List.map_map]
      rfl
    rw [Compilation.diagnostics, hrefusals, hfindings, List.append_assoc]
  · exact fun diagnostic h => kind_ne_of_mem_refusedDiagnostics h
  · refine ⟨run.progress.unused.ascending, fun id => ?_⟩
    rw [hprogress]
    exact mem_unused_walk_iff hloaded _
  · refine ⟨hsublist, hloaded.nodup_ids.sublist (hsublist.map Area.id), fun place => ?_⟩
    rw [hprogress]
    exact mem_missingAreas_walk_iff hloaded _

theorem gate_is_reported :
    let guide := Guide.of Market.world none "gate"
    let run := compile guide (.start "gate" "square") ["{get_waypoint} and {enter|square}"]
    World.ofTables Market.areas .null Market.quests = .ok Market.world ∧
      .found (.unusedWaypoint "gate") ∈ run.diagnostics ∧
      .found (.missingCrafting "gate" ["rope"]) ∈ run.diagnostics := by
  intro guide run
  obtain ⟨unused, missing, hreport, -, ⟨-, hunused⟩, ⟨-, -, hmissing⟩, -⟩ :=
    report_is_exact Market.world_ofTables none "gate" "gate" "square"
      ["{get_waypoint} and {enter|square}"]
  have hgroups : ["{get_waypoint} and {enter|square}"].flatMap groupsOfDocument =
      [["get_waypoint"], ["enter", "square"]] := by decide +kernel
  rw [hgroups] at hunused hmissing
  obtain ⟨gate, hgate, hid, hrecipes⟩ : ∃ gate ∈ Market.world.areas.values,
      gate.id = "gate" ∧ gate.recipes = [("rope" : Letters)] :=
    ⟨_, List.mem_cons_of_mem _ List.mem_cons_self, rfl, rfl⟩
  have hpicked : ("gate" : Letters) ∈ unused := by
    refine (hunused "gate").mpr ⟨⟨_, List.mem_cons_self, rfl, rfl⟩, ?_⟩
    apply not_happened_walk
    simp [TravelsTo]
  have hleft : gate ∈ missing := by
    refine (hmissing gate).mpr ⟨hgate, ?_, ?_⟩
    · rw [hrecipes]
      exact List.cons_ne_nil _ _
    · apply not_happened_walk
      simp [CraftsIn]
  refine ⟨Market.world_ofTables, ?_, ?_⟩
  · rw [hreport]
    exact List.mem_append_left _ (List.mem_append_right _ (List.mem_map_of_mem hpicked))
  · rw [hreport, ← hid, ← hrecipes]
    exact List.mem_append_right _ (List.mem_map_of_mem hleft)

end Walkthrough

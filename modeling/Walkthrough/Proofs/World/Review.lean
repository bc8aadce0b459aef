import Walkthrough.Proofs.World.Loaded
import Walkthrough.World.Review

/-!
# What a review says

A review looks at the tables one after the other. Nothing is wrong with a world exactly if its
tables agree with each other, and this is said here without the review.

* `World.Sound` — the tables agree with each other;
* `World.review_eq_nil_iff` — a review that finds nothing means just that;
* `World.Sound.townOf_area` — in a sound world every act that has an area has a town in the index.
-/

namespace Walkthrough

open Walkthrough.Text (Letters)

/-! ## The town index -/

/-- Once an act has a town, it has one whatever areas are seen after that. -/
theorem Towns.exists_of?_foldl_put {act : Act} {areas : List Area} {towns : Towns}
    (h : (∃ area ∈ areas, area.act.same act = true) ∨ ∃ town, Towns.of? act towns = some town) :
    ∃ town, Towns.of? act (areas.foldl (fun towns area => towns.put area.act area.id) towns) =
      some town := by
  induction areas generalizing towns with
  | nil =>
      rcases h with ⟨area, hmem, -⟩ | hold
      · exact absurd hmem List.not_mem_nil
      · exact hold
  | cons area areas ih =>
      apply ih
      by_cases hsame : area.act.same act = true
      · exact .inr ⟨area.id, by rw [Towns.of?_put, if_pos hsame]⟩
      · rcases h with ⟨other, hmem, hother⟩ | ⟨town, hold⟩
        · rcases List.mem_cons.mp hmem with rfl | hmem
          · exact absurd hother hsame
          · exact .inl ⟨other, hmem, hother⟩
        · exact .inr ⟨town, by rw [Towns.of?_put, if_neg hsame, hold]⟩

namespace World

variable {world : World}

/-- An act with a town area has a town in the index. -/
theorem exists_towns_of_townCount {act : Act} (h : world.townCount act ≠ 0) :
    ∃ town, world.towns.of? act = some town := by
  obtain ⟨area, hmem, hsame⟩ := List.countP_pos_iff.mp (Nat.pos_of_ne_zero h)
  exact Towns.exists_of?_foldl_put (.inl ⟨area, hmem, hsame⟩)

/-! ## Acts -/

theorem townCount_of_same {a b : Act} (h : a.same b = true) :
    world.townCount a = world.townCount b := by
  have hvalue : a.value = b.value := beq_iff_eq.mp h
  simp only [townCount, Act.same, hvalue]

theorem mem_of_mem_distinctActs {act : Act} {acts : List Act} (h : act ∈ distinctActs acts) :
    act ∈ acts := by
  induction acts with
  | nil => exact h
  | cons first acts ih =>
      rcases List.mem_cons.mp h with rfl | hrest
      · exact List.mem_cons_self
      · exact List.mem_cons_of_mem _ (ih (List.mem_filter.mp hrest).1)

/-- Every act that was written is named by one of the distinct ones. -/
theorem exists_same_of_mem {act : Act} {acts : List Act} (h : act ∈ acts) :
    ∃ first ∈ distinctActs acts, first.same act = true := by
  induction acts with
  | nil => exact absurd h List.not_mem_nil
  | cons first acts ih =>
      by_cases hsame : first.same act = true
      · exact ⟨first, List.mem_cons_self, hsame⟩
      · rcases List.mem_cons.mp h with rfl | hrest
        · exact absurd (beq_self_eq_true act.value) hsame
        · obtain ⟨other, hmem, hother⟩ := ih hrest
          have hkept : (!first.same other) = true := by
            have hvalue : other.value = act.value := beq_iff_eq.mp hother
            simpa only [Act.same, hvalue, Bool.not_eq_true', Bool.not_eq_true] using hsame
          exact ⟨other, List.mem_cons_of_mem _ (List.mem_filter.mpr ⟨hmem, hkept⟩), hother⟩

/-- What holds of all acts, however they are written, holds of the acts of all areas. -/
theorem forall_acts_iff {P : Act → Prop} (hsame : ∀ a b, a.same b = true → P a → P b) :
    (∀ act ∈ world.acts, P act) ↔ ∀ area ∈ world.areas.values, P area.act := by
  constructor
  · intro h area harea
    obtain ⟨act, hmem, hact⟩ := exists_same_of_mem (List.mem_map_of_mem harea)
    exact hsame act area.act hact (h act hmem)
  · intro h act hact
    obtain ⟨area, harea, rfl⟩ := List.mem_map.mp (mem_of_mem_distinctActs hact)
    exact h area harea

/-- An act is among the acts of a world exactly if some area has it. -/
theorem any_acts_iff {act : Act} :
    (world.acts.any fun first => first.same act) = true ↔
      ∃ area ∈ world.areas.values, area.act.same act = true := by
  rw [List.any_eq_true]
  constructor
  · rintro ⟨first, hmem, hsame⟩
    obtain ⟨area, harea, rfl⟩ := List.mem_map.mp (mem_of_mem_distinctActs hmem)
    exact ⟨area, harea, hsame⟩
  · rintro ⟨area, harea, hsame⟩
    obtain ⟨first, hmem, hfirst⟩ := exists_same_of_mem (List.mem_map_of_mem harea)
    exact ⟨first, hmem, by simp only [Act.same, beq_iff_eq] at *; omega⟩

/-! ## Nothing wrong -/

/-- The tables of a world agree with each other. -/
structure Sound (world : World) : Prop where
  /-- Areas are connected to areas. -/
  neighbours : ∀ area ∈ world.areas.values, ∀ id ∈ area.neighbours, world.IsArea id
  /-- An act that has areas has just one town. -/
  oneTown : ∀ area ∈ world.areas.values, world.townCount area.act = 1
  /-- Kills unlock areas with a waypoint. -/
  unlocks : ∀ entry ∈ world.unlocks, ∀ id ∈ entry.2, world.IsWaypoint id
  /-- The act of a quest has areas. -/
  questActs : ∀ quest ∈ world.quests.values,
    ∃ area ∈ world.areas.values, area.act.same quest.act = true

theorem reviewArea_eq_nil_iff {area : Area} :
    world.reviewArea area = [] ↔ ∀ id ∈ area.neighbours, world.IsArea id := by
  unfold reviewArea
  rw [List.map_eq_nil_iff, List.filter_eq_nil_iff]
  refine forall₂_congr fun id _ => ?_
  rw [Bool.not_eq_true', Bool.not_eq_false]
  exact Option.isSome_iff_exists

theorem reviewAct_eq_nil_iff {act : Act} :
    world.reviewAct act = [] ↔ world.townCount act = 1 := by
  unfold reviewAct
  split <;> simp_all

theorem reviewUnlock_eq_nil_iff {boss id : Letters} :
    world.reviewUnlock boss id = [] ↔ world.IsWaypoint id := by
  unfold reviewUnlock IsWaypoint
  cases world.area? id with
  | none => simp
  | some area => simp

theorem reviewQuest_eq_nil_iff {quest : Quest} :
    world.reviewQuest quest = [] ↔
      ∃ area ∈ world.areas.values, area.act.same quest.act = true := by
  rw [← any_acts_iff]
  unfold reviewQuest
  by_cases h : (world.acts.any fun act => act.same quest.act) = true
  · rw [if_pos h]; exact iff_of_true rfl h
  · rw [if_neg h]; exact iff_of_false (List.cons_ne_nil _ _) h

/-- A review finds nothing exactly if the tables agree with each other. -/
theorem review_eq_nil_iff : world.review = [] ↔ world.Sound := by
  have hacts : (∀ act ∈ world.acts, world.townCount act = 1) ↔
      ∀ area ∈ world.areas.values, world.townCount area.act = 1 :=
    forall_acts_iff fun a b hsame h => townCount_of_same hsame ▸ h
  unfold review
  simp only [List.append_eq_nil_iff, List.flatMap_eq_nil_iff, List.mem_mergeSort,
    reviewArea_eq_nil_iff, reviewAct_eq_nil_iff, reviewUnlock_eq_nil_iff, reviewQuest_eq_nil_iff,
    hacts]
  constructor
  · rintro ⟨⟨⟨hareas, htowns⟩, hunlocks⟩, hquests⟩
    exact ⟨hareas, htowns, hunlocks, hquests⟩
  · rintro ⟨hareas, htowns, hunlocks, hquests⟩
    exact ⟨⟨⟨hareas, htowns⟩, hunlocks⟩, hquests⟩

namespace Sound

/-- Whatever a kill unlocks in a sound world is an area with a waypoint. -/
theorem isWaypoint_of_unlockedBy (hsound : world.Sound) {boss id : Letters}
    (h : id ∈ world.unlockedBy boss) : world.IsWaypoint id := by
  unfold unlockedBy at h
  cases hids : world.unlocks.get? boss with
  | none => rw [hids] at h; exact absurd h List.not_mem_nil
  | some ids =>
      rw [hids] at h
      exact hsound.unlocks _ (Table.mem_of_get? hids) id h

/-- In a sound world the act of every area has a town in the index. -/
theorem townOf_area (hsound : world.Sound) {id : Letters} {area : Area}
    (h : world.area? id = some area) : ∃ town, world.towns.of? area.act = some town := by
  have hvalue : area ∈ world.areas.values := List.mem_map_of_mem (Table.mem_of_get? h)
  exact exists_towns_of_townCount (by rw [hsound.oneTown area hvalue]; decide)

end Sound

end World

/-! ## A sound world -/

namespace Ferry

/-- Two waypoints on either side of the water. -/
def areas : Json := .record [
  ("pier", .record [("id", .text "pier"), ("act", .int 1), ("name", .text "The Pier"),
    ("connection_ids", .array []), ("has_waypoint", .bool true)]),
  ("isle", .record [("id", .text "isle"), ("act", .int 1), ("name", .text "The Isle"),
    ("is_town_area", .bool true), ("has_waypoint", .bool true)])]

/-- The ferryman guards the waypoint of the isle. -/
def unlocks : Json := .record [("ferryman", .array [.text "isle"])]

/-- What the tables describe. -/
def world : World where
  areas := [
    ("pier", {
      id := "pier", act := ⟨1, false⟩, name := "The Pier", neighbours := []
      isTown := false, hasWaypoint := true, recipes := [] }),
    ("isle", {
      id := "isle", act := ⟨1, false⟩, name := "The Isle", neighbours := []
      isTown := true, hasWaypoint := true, recipes := [] })]
  unlocks := [("ferryman", ["isle"])]
  quests := []

theorem world_ofTables : World.ofTables areas unlocks .null = .ok world := by
  with_unfolding_all rfl

theorem review_world : world.review = [] := by
  decide +kernel

end Ferry

end Walkthrough

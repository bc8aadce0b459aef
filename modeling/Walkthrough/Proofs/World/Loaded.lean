import Walkthrough.Proofs.World.Shape

/-!
# Loaded worlds

What can be relied on in a world that was made of tables: every area is found under its own id, ids
are not empty, and the town of an act is a town of the world. Connections, unlocks and quests may
still name what is not there.

* `World.IsArea`, `World.IsTown`, `World.IsWaypoint`, `World.IsUnlocked` — what an id may name;
* `World.Loaded` — the promise, and `World.loaded_of_ofTables`, which keeps it;
* `World.Loaded.isTown_of_towns` — the town index leads to towns;
* `Hamlet`, `Market` — small worlds that are made of tables.
-/

namespace Walkthrough

open Walkthrough.Text (Letters)

/-! ## The towns -/

/-- Whatever the towns say after some areas, they said before or one of the areas says. -/
theorem Towns.of?_foldl_put {act : Act} {town : Letters} {areas : List Area} {towns : Towns}
    (h : Towns.of? act (areas.foldl (fun towns area => towns.put area.act area.id) towns) =
      some town) :
    (∃ area ∈ areas, area.act.same act = true ∧ area.id = town) ∨
      Towns.of? act towns = some town := by
  induction areas generalizing towns with
  | nil => exact .inr h
  | cons area areas ih =>
      rcases ih h with ⟨other, hmem, hother⟩ | hput
      · exact .inl ⟨other, List.mem_cons_of_mem _ hmem, hother⟩
      · rw [Towns.of?_put] at hput
        by_cases hsame : area.act.same act = true
        · rw [if_pos hsame] at hput
          exact .inl ⟨area, List.mem_cons_self, hsame, Option.some.inj hput⟩
        · rw [if_neg hsame] at hput
          exact .inr hput

namespace World

variable {world : World} {id : Letters}

/-- A town that the index names is a town of the world and of that act. -/
theorem mem_of_towns {act : Act} {town : Letters} (h : world.towns.of? act = some town) :
    ∃ area ∈ world.areas.values,
      area.id = town ∧ area.isTown = true ∧ area.act.same act = true := by
  rcases Towns.of?_foldl_put h with ⟨area, hmem, hsame, hid⟩ | hnone
  · obtain ⟨hvalue, htown⟩ := List.mem_filter.mp hmem
    exact ⟨area, hvalue, hid, htown, hsame⟩
  · cases hnone

/-! ## What an id may name -/

/-- Whether an id is the id of an area. -/
def IsArea (world : World) (id : Letters) : Prop := ∃ area, world.area? id = some area

/-- Whether an id is the id of a town. -/
def IsTown (world : World) (id : Letters) : Prop :=
  ∃ area, world.area? id = some area ∧ area.isTown = true

/-- Whether an id is the id of an area with a waypoint. -/
def IsWaypoint (world : World) (id : Letters) : Prop :=
  ∃ area, world.area? id = some area ∧ area.hasWaypoint = true

/-- Whether some kill unlocks an id. -/
def IsUnlocked (world : World) (id : Letters) : Prop := ∃ boss, id ∈ world.unlockedBy boss

theorem IsTown.isArea (h : world.IsTown id) : world.IsArea id := by
  obtain ⟨area, harea, -⟩ := h
  exact ⟨area, harea⟩

/-! ## What a load promises -/

/-- What can be relied on in a world that was made of tables. -/
structure Loaded (world : World) : Prop where
  /-- No two entries have one key. -/
  keys_nodup : world.areas.keys.Nodup
  /-- Every area stands under its id. -/
  key_eq_id : ∀ entry ∈ world.areas, entry.1 = entry.2.id
  /-- No id is empty. -/
  id_ne_nil : ∀ entry ∈ world.areas, entry.2.id ≠ []

/-- The id in the table of an area is not empty. -/
theorem id_ofJson_ne_nil {json : Json} (h : Area.shape json = []) : (Area.ofJson json).id ≠ [] := by
  obtain ⟨members, rfl, hrequired, hshape, -⟩ := Shape.record_eq_nil_iff.mp h
  have hhas := hrequired _ List.mem_cons_self rfl
  obtain ⟨value, hvalue⟩ := Option.isSome_iff_exists.mp hhas
  obtain ⟨text, rfl, hne⟩ := Shape.name_eq_nil_iff.mp (hshape _ List.mem_cons_self value hvalue)
  have hid : (Area.ofJson (.object members)).id = text := by
    show (((Json.object members).member? "id").getD .null).asText = text
    rw [show (Json.object members).member? "id" = some (.string text) from hvalue]
    rfl
  rw [hid]
  exact hne

theorem loaded_of_ofTables {areas unlocks quests : Json}
    (h : World.ofTables areas unlocks quests = .ok world) : world.Loaded := by
  obtain ⟨hareas, -, -, hkeys, rfl⟩ := World.ofTables_eq_ok_iff.mp h
  obtain ⟨members, rfl, hmembers⟩ := Shape.dict_eq_nil_iff.mp hareas
  refine ⟨Table.nodup_keys_ofEntries _, hkeys, ?_⟩
  intro entry hentry
  obtain ⟨member, hmember, rfl⟩ := List.mem_map.mp (Table.mem_of_mem_ofEntries hentry)
  exact id_ofJson_ne_nil (hmembers member hmember)

namespace Loaded

/-- An area is found under its own id only. -/
theorem id_eq (hloaded : world.Loaded) {area : Area} (h : world.area? id = some area) :
    area.id = id :=
  (hloaded.key_eq_id _ (Table.mem_of_get? h)).symm

theorem area?_self (hloaded : world.Loaded) {area : Area} (h : world.area? id = some area) :
    world.area? area.id = some area := by
  rw [hloaded.id_eq h]
  exact h

/-- An id that names an area is not empty. -/
theorem ne_nil (hloaded : world.Loaded) (h : world.IsArea id) : id ≠ [] := by
  obtain ⟨area, harea⟩ := h
  rw [← hloaded.id_eq harea]
  exact hloaded.id_ne_nil _ (Table.mem_of_get? harea)

/-- Every area of the table is found under its id. -/
theorem area?_id (hloaded : world.Loaded) {area : Area} (h : area ∈ world.areas.values) :
    world.area? area.id = some area := by
  obtain ⟨⟨key, _⟩, hentry, rfl⟩ := List.mem_map.mp h
  have hkey := hloaded.key_eq_id _ hentry
  exact Table.get?_of_mem hloaded.keys_nodup (hkey ▸ hentry)

/-- No two areas of the table have one id. -/
theorem nodup_ids (hloaded : world.Loaded) : (world.areas.values.map Area.id).Nodup := by
  have hids : world.areas.values.map Area.id = world.areas.keys := by
    rw [Table.values, Table.keys, List.map_map]
    exact List.map_congr_left fun entry hentry => (hloaded.key_eq_id entry hentry).symm
  rw [hids]
  exact hloaded.keys_nodup

/-- The town index leads to towns. -/
theorem isTown_of_towns (hloaded : world.Loaded) {act : Act} {town : Letters}
    (h : world.towns.of? act = some town) : world.IsTown town := by
  obtain ⟨area, hmem, rfl, htown, -⟩ := mem_of_towns h
  exact ⟨area, hloaded.area?_id hmem, htown⟩

end Loaded

end World

/-! ## Small worlds -/

namespace Hamlet

/-- A shore with a waypoint, and the hamlet that can be reached from it. -/
def areas : Json := .record [
  ("shore", .record [("id", .text "shore"), ("act", .int 1), ("name", .text "The Shore"),
    ("connection_ids", .array [.text "hamlet"]), ("has_waypoint", .bool true)]),
  ("hamlet", .record [("id", .text "hamlet"), ("act", .int 1), ("name", .text "The Hamlet"),
    ("connection_ids", .array [.text "shore"]), ("is_town_area", .bool true)])]

/-- The hermit guards the waypoint on the shore. -/
def unlocks : Json := .record [("hermit", .array [.text "shore"])]

/-- What the tables describe. -/
def world : World where
  areas := [
    ("shore", {
      id := "shore", act := ⟨1, false⟩, name := "The Shore", neighbours := ["hamlet"]
      isTown := false, hasWaypoint := true, recipes := [] }),
    ("hamlet", {
      id := "hamlet", act := ⟨1, false⟩, name := "The Hamlet", neighbours := ["shore"]
      isTown := true, hasWaypoint := false, recipes := [] })]
  unlocks := [("hermit", ["shore"])]
  quests := []

theorem world_ofTables : World.ofTables areas unlocks .null = .ok world := by
  with_unfolding_all rfl

end Hamlet

namespace Market

/-- A square where errands are run, and the gate that leads to it. -/
def areas : Json := .record [
  ("square", .record [("id", .text "square"), ("act", .int 1), ("name", .text "The Square"),
    ("connection_ids", .array [.text "gate"]), ("is_town_area", .bool true),
    ("has_waypoint", .bool true)]),
  ("gate", .record [("id", .text "gate"), ("act", .int 1), ("name", .text "The Gate"),
    ("connection_ids", .array [.text "square"]), ("has_waypoint", .bool true),
    ("crafting_recipes", .array [.text "rope"])])]

/-- The smith pays for an errand with a ruby. -/
def quests : Json := .record [
  ("errand", .record [("id", .text "errand"), ("name", .text "An Errand"), ("act", .int 1),
    ("reward_offers", .array [.record [("quest_npc", .text "smith"),
      ("quest", .record [("ruby", .array [])])]])])]

/-- What the tables describe. -/
def world : World where
  areas := [
    ("square", {
      id := "square", act := ⟨1, false⟩, name := "The Square", neighbours := ["gate"]
      isTown := true, hasWaypoint := true, recipes := [] }),
    ("gate", {
      id := "gate", act := ⟨1, false⟩, name := "The Gate", neighbours := ["square"]
      isTown := false, hasWaypoint := true, recipes := ["rope"] })]
  unlocks := []
  quests := [
    ("errand", {
      id := "errand", name := "An Errand", act := ⟨1, false⟩
      offers := [{ npc := "smith", quest := [("ruby", [])], vendor := [] }] })]

theorem world_ofTables : World.ofTables areas .null quests = .ok world := by
  with_unfolding_all rfl

end Market

end Walkthrough

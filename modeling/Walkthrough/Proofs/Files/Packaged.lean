import Walkthrough.Files.Packaged
import Walkthrough.Proofs.Files.Kept
import Walkthrough.Proofs.World.Review

/-!
# The packaged tables are a world

The tables that come with the program are files in a folder, and what is loaded from there is read
from these files. Wherever the folder is, they can be read and the tables agree with each other.

* `Disk.withPackaged_child`, `Disk.withPackaged_of_ne` — what is at the ends of paths where the
  packaged tables are in a folder;
* `Packaged.writable_areas` and its siblings — the tables can be written, and read again where six
  brackets may be open at once;
* `Packaged.holds` — so the files hold them;
* `loadWorld_withPackaged` — the world that is loaded from the folder, with nothing wrong with it.
-/

namespace Walkthrough

open Walkthrough.Text

/-! ## The files -/

theorem Path.child_inj {folder : Path} {a b : String} :
    folder.child a = folder.child b ↔ a = b := by
  simp [Path.child]

/-- A packaged table is in its file. -/
theorem Disk.withPackaged_child {name : String} {table : Json}
    (h : (name, table) ∈ Packaged.files) (disk : Disk) (folder : Path) :
    disk.withPackaged folder (folder.child name) = .file (Packaged.bytes table) := by
  have hname (other : String) : (folder.child other == folder.child name) = (other == name) := by
    rw [Bool.eq_iff_iff, beq_iff_eq, beq_iff_eq, Path.child_inj]
  -- The names of the files are distinct, so the search ends at the table.
  have hfind : Packaged.files.find? (fun file => folder.child file.1 == folder.child name) =
      some (name, table) := by
    simp only [hname]
    rcases List.mem_cons.mp h with heq | h
    · rw [(Prod.mk.inj heq).1, (Prod.mk.inj heq).2]
      rfl
    rcases List.mem_pair.mp h with heq | heq
    · rw [(Prod.mk.inj heq).1, (Prod.mk.inj heq).2]
      rfl
    · rw [(Prod.mk.inj heq).1, (Prod.mk.inj heq).2]
      rfl
  rw [withPackaged, hfind]

/-- All other paths lead where they led. -/
theorem Disk.withPackaged_of_ne {folder path : Path}
    (h : ∀ file ∈ Packaged.files, folder.child file.1 ≠ path) (disk : Disk) :
    disk.withPackaged folder path = disk path := by
  have hfind : Packaged.files.find? (fun file => folder.child file.1 == path) = none :=
    List.find?_eq_none.mpr fun file hfile => mt beq_iff_eq.mp (h file hfile)
  rw [withPackaged, hfind]

/-! ## The tables -/

namespace Packaged

open Walkthrough.Number

variable {room : Nat}

theorem writable_texts (values : List String) : (texts values).Writable (room + 1) :=
  .array (List.forall_mem_map.mpr fun value _ => Json.writable_text value)

/-- The acts of the packaged tables are single digits. -/
theorem writable_act {act : Int} (h : act.natAbs < 10) : (Json.int act).Writable room :=
  .int (isShort_of_lt (Nat.lt_trans h (by decide)))

theorem writable_area {act : Int} (hact : act.natAbs < 10) (id name : String)
    (neighbours recipes : List String) (isTown hasWaypoint : Bool) :
    (area id act name neighbours isTown hasWaypoint recipes).2.Writable (room + 2) := by
  refine .record (by simp) ?_
  simp only [List.forall_mem_cons]
  exact ⟨Json.writable_text id, writable_act hact, Json.writable_text name,
    writable_texts neighbours, .bool, .bool, writable_texts recipes, nofun⟩

theorem writable_areas : areas.Writable (room + 3) := by
  refine .record (by simp [area]) ?_
  simp (disch := decide) only [List.forall_mem_cons, writable_area, true_and]
  exact nofun

theorem writable_unlocks : unlocks.Writable (room + 2) := by
  refine .record (by simp) ?_
  simp only [List.forall_mem_cons]
  exact ⟨writable_texts _, writable_texts _, nofun⟩

theorem writable_gems {entries : List (String × List String)}
    (h : (entries.map Prod.fst).Nodup) : (gems entries).Writable (room + 2) := by
  refine .record ?_ (List.forall_mem_map.mpr fun entry _ => writable_texts entry.2)
  rwa [List.map_map]

theorem writable_offer {quest vendor : List (String × List String)} (npc : String)
    (hquest : (quest.map Prod.fst).Nodup) (hvendor : (vendor.map Prod.fst).Nodup) :
    (offer npc quest vendor).Writable (room + 3) := by
  refine .record (by simp) ?_
  simp only [List.forall_mem_cons]
  exact ⟨Json.writable_text npc, writable_gems hquest, writable_gems hvendor, nofun⟩

theorem writable_quest {act : Int} {offers : List Json} (hact : act.natAbs < 10)
    (id name : String) (h : ∀ offer ∈ offers, offer.Writable (room + 3)) :
    (quest id name act offers).2.Writable (room + 5) := by
  refine .record (by simp) ?_
  simp only [List.forall_mem_cons]
  exact ⟨Json.writable_text id, Json.writable_text name, writable_act hact, .array h, nofun⟩

theorem writable_quests : quests.Writable (room + 6) := by
  refine .record (by simp [quest]) ?_
  simp only [List.forall_mem_cons]
  refine ⟨writable_quest (by decide) _ _ ?_, writable_quest (by decide) _ _ ?_,
    writable_quest (by decide) _ _ ?_, nofun⟩
  all_goals
    simp (disch := simp) only [List.forall_mem_cons, writable_offer, true_and]
    exact nofun

/-- The files hold the tables, wherever their folder is. -/
theorem holds {nesting : Nat} {name : String} {table : Json} (h : (name, table) ∈ files)
    (hwritable : table.Writable nesting) (disk : Disk) (folder : Path) :
    (disk.withPackaged folder).Holds nesting (folder.child name) table := by
  have hfile := Disk.withPackaged_child h disk folder
  have hblanks : Letters.IsBlank [] := nofun
  have hread : readJson nesting (disk.withPackaged folder) (folder.child name) = .ok table := by
    refine readJson_write Json.Layout.isBlank_indented hwritable hblanks ?_
    rwa [List.append_nil]
  exact (readJson_eq_ok_iff (Disk.lacks_of_file hfile)).mp hread

/-! ## The world -/

/-- What the tables describe. -/
def world : World where
  areas := areas.entries Area.ofJson
  unlocks := unlocks.orEmpty.entries fun ids => ids.items.map Json.asText
  quests := quests.orEmpty.entries Quest.ofJson

theorem world_ofTables : World.ofTables areas unlocks quests = .ok world :=
  World.ofTables_eq_ok_iff.mpr
    ⟨List.isEmpty_iff.mp (by decide +kernel), List.isEmpty_iff.mp (by decide +kernel),
      List.isEmpty_iff.mp (by decide +kernel), by decide +kernel, rfl⟩

theorem sound_world : world.Sound := by
  -- One evaluation for all tables: most of the work is to get the world from them.
  have hreview : (∀ area ∈ world.areas.values,
        world.reviewArea area = [] ∧ world.townCount area.act = 1) ∧
      (∀ entry ∈ world.unlocks, ∀ id ∈ entry.2, world.reviewUnlock entry.1 id = []) ∧
      ∀ quest ∈ world.quests.values,
        ∃ area ∈ world.areas.values, area.act.same quest.act = true := by
    decide +kernel
  obtain ⟨hareas, hunlocks, hquests⟩ := hreview
  exact ⟨fun area harea => World.reviewArea_eq_nil_iff.mp (hareas area harea).1,
    fun area harea => (hareas area harea).2,
    fun entry hentry id hid => World.reviewUnlock_eq_nil_iff.mp (hunlocks entry hentry id hid),
    hquests⟩

end Packaged

/-- Wherever the packaged tables are, what is loaded from there is the world that they describe, and
nothing is wrong with it. -/
theorem loadWorld_withPackaged {nesting : Nat} (hroom : 6 ≤ nesting) (disk : Disk)
    (folder : Path) :
    loadWorld nesting (disk.withPackaged folder) folder = .ok Packaged.world ∧
      Packaged.world.review = [] := by
  obtain ⟨room, rfl⟩ := Nat.exists_eq_add_of_le' hroom
  have hareas : (disk.withPackaged folder).Holds (room + 6) (folder.child "areas.json")
      Packaged.areas :=
    Packaged.holds (by simp [Packaged.files]) Packaged.writable_areas disk folder
  have hunlocks : (disk.withPackaged folder).Holds (room + 6) (folder.child "kill_waypoints.json")
      Packaged.unlocks :=
    Packaged.holds (by simp [Packaged.files]) Packaged.writable_unlocks disk folder
  have hquests : (disk.withPackaged folder).Holds (room + 6) (folder.child "quests.json")
      Packaged.quests :=
    Packaged.holds (by simp [Packaged.files]) Packaged.writable_quests disk folder
  refine ⟨?_, World.review_eq_nil_iff.mpr Packaged.sound_world⟩
  exact loadWorld_of_ofTables hareas (.inr hunlocks) (.inr hquests) Packaged.world_ofTables

end Walkthrough

import Walkthrough.Files.Disk
import Walkthrough.Json.Writer

/-!
# The packaged tables

The program comes with tables of its own, which are used where no other folder is set: the first act
and the way to the labyrinth. They are files in a folder of the host like any others.

* `Packaged.areas`, `Packaged.unlocks`, `Packaged.quests` — the tables.
* `Disk.withPackaged` — a disk with their files in a folder.
-/

namespace Walkthrough

open Walkthrough.Text

namespace Packaged

def texts (values : List String) : Json := .array (values.map .text)

/-- The entry of an area. -/
def area (id : String) (act : Int) (name : String) (neighbours : List String)
    (isTown hasWaypoint : Bool) (recipes : List String) : String × Json :=
  (id, .record [("id", .text id), ("act", .int act), ("name", .text name),
    ("connection_ids", texts neighbours), ("is_town_area", .bool isTown),
    ("has_waypoint", .bool hasWaypoint), ("crafting_recipes", texts recipes)])

def areas : Json := .record [
  area "1_1_town" 1 "Lioneye's Watch"
    ["1_1_1", "1_1_2"] true true [],
  area "1_1_1" 1 "The Twilight Strand"
    ["1_1_town"] false false [],
  area "1_1_2" 1 "The Coast"
    ["1_1_town", "1_1_2a", "1_1_3"] false true [],
  area "1_1_2a" 1 "The Tidal Island"
    ["1_1_2"] false false [],
  area "1_1_3" 1 "The Mud Flats"
    ["1_1_2", "1_1_4_1"] false false [],
  area "1_1_4_1" 1 "The Submerged Passage"
    ["1_1_3", "1_1_4_0", "1_1_5"] false true [],
  area "1_1_4_0" 1 "The Flooded Depths"
    ["1_1_4_1"] false false ["#% increased Mana Regeneration Rate"],
  area "1_1_5" 1 "The Ledge"
    ["1_1_4_1", "1_1_6"] false true [],
  area "1_1_6" 1 "The Climb"
    ["1_1_5", "1_1_7_1"] false true [],
  area "1_1_7_1" 1 "The Lower Prison"
    ["1_1_6", "1_1_7_2"] false true ["#% increased Attack Speed", "+# to maximum Life"],
  area "1_1_7_2" 1 "The Upper Prison"
    ["1_1_7_1", "1_1_8"] false false [],
  area "1_1_8" 1 "Prisoner's Gate"
    ["1_1_7_2", "1_1_9"] false true [],
  area "1_1_9" 1 "The Ship Graveyard"
    ["1_1_8", "1_1_11_1"] false true [],
  area "1_1_11_1" 1 "The Cavern of Wrath"
    ["1_1_9", "1_1_11_2"] false true [],
  area "1_1_11_2" 1 "The Cavern of Anger"
    ["1_1_11_1", "1_2_1"] false false [],
  area "1_2_town" 2 "The Forest Encampment"
    ["1_2_1", "1_2_2"] true true [],
  area "1_2_1" 2 "The Southern Forest"
    ["1_1_11_2", "1_2_town"] false false [],
  area "1_2_2" 2 "The Old Fields"
    ["1_2_town"] false false ["+#% to Cold Resistance"],
  area "1_3_town" 3 "The Sarn Encampment"
    ["Labyrinth_Airlock"] true true [],
  area "Labyrinth_Airlock" 3 "Aspirants' Plaza"
    ["1_3_town"] false true []]

def unlocks : Json := .record [
  ("Brutus, Lord Incarcerator", texts ["1_1_8"]),
  ("Merveil, the Twisted", texts ["1_2_town"])]

/-- Gems with the classes that may have them. -/
def gems (entries : List (String × List String)) : Json :=
  .record (entries.map fun (gem, classes) => (gem, texts classes))

def offer (npc : String) (quest vendor : List (String × List String)) : Json :=
  .record [("quest_npc", .text npc), ("quest", gems quest), ("vendor", gems vendor)]

/-- The entry of a quest. -/
def quest (id name : String) (act : Int) (offers : List Json) : String × Json :=
  (id, .record [("id", .text id), ("name", .text name), ("act", .int act),
    ("reward_offers", .array offers)])

def quests : Json := .record [
  quest "a1q1" "Enemy at the Gate" 1 [
    offer "Tarkleigh"
      [("Fireball", ["Witch"]), ("Molten Strike", ["Marauder", "Duelist"]),
        ("Rolling Magma", ["Witch", "Templar"])]
      [("Frostblink", [])]],
  quest "a1q2" "Mercy Mission" 1 [
    offer "Nessa"
      [("Frost Bomb", [])]
      [("Flame Dash", ["Witch", "Templar", "Shadow"])]],
  quest "a1q4" "The Caged Brute" 1 [
    offer "Nessa"
      [("Leap Slam", ["Marauder"]), ("Arc", ["Witch"])]
      [],
    offer "Tarkleigh"
      [("Arcane Surge", ["Witch", "Templar"])]
      []]]

/-- The tables with the names of their files. -/
def files : List (String × Json) :=
  [("areas.json", areas), ("kill_waypoints.json", unlocks), ("quests.json", quests)]

/-- The bytes of a file with a table. -/
def bytes (table : Json) : List UInt8 := Utf8.encode (Json.write .indented table).shown

end Packaged

/-- The disk where a folder holds the packaged tables. -/
def Disk.withPackaged (disk : Disk) (folder : Path) : Disk := fun path =>
  match Packaged.files.find? fun file => folder.child file.1 == path with
  | some (_, table) => .file (Packaged.bytes table)
  | none => disk path

end Walkthrough

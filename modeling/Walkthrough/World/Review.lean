import Walkthrough.World.Basic

/-!
# Reviewing a world

A world can be used even if its tables do not agree with each other, but its author is told.

* `World.Issue` — what may be wrong.
* `World.review` — all that is wrong with a world: connections, acts, unlocks and quests in turn.
-/

namespace Walkthrough.World

open Walkthrough.Text (Letters)

/-- What may be wrong with the tables of a world. -/
inductive Issue
  /-- An area is connected to an area that is not there. -/
  | missingNeighbour (area neighbour : Letters)
  /-- An act has areas and no town. -/
  | noTown (act : Act)
  /-- An act has more than one town. -/
  | manyTowns (act : Act) (count : Nat)
  /-- A kill unlocks an area that is not there. -/
  | unlocksMissing (boss area : Letters)
  /-- A kill unlocks an area that has no waypoint. -/
  | unlocksNoWaypoint (boss area : Letters)
  /-- A quest belongs to an act that has no areas. -/
  | unknownAct (quest : Letters) (act : Act)
  deriving DecidableEq

def Issue.message : Issue → String
  | missingNeighbour area neighbour =>
    "Area '" ++ area.shown ++ "' connects to missing area '" ++ neighbour.shown ++ "'"
  | noTown act => "Act " ++ act.text ++ " has no town area"
  | manyTowns act count => "Act " ++ act.text ++ " has " ++ toString count ++ " town areas"
  | unlocksMissing boss area =>
    "Kill '" ++ boss.shown ++ "' unlocks missing area '" ++ area.shown ++ "'"
  | unlocksNoWaypoint boss area =>
    "Kill '" ++ boss.shown ++ "' unlocks '" ++ area.shown ++ "' which has no waypoint"
  | unknownAct quest act => "Quest '" ++ quest.shown ++ "' belongs to unknown act " ++ act.text

/-- Acts without those that an earlier one names as well. -/
def distinctActs : List Act → List Act
  | [] => []
  | act :: acts => act :: (distinctActs acts).filter fun other => !act.same other

variable (world : World)

/-- The acts that have areas, as first written. -/
def acts : List Act := distinctActs (world.areas.values.map (·.act))

def townCount (act : Act) : Nat := world.townAreas.countP fun area => area.act.same act

/-- What is wrong with the connections of an area. -/
def reviewArea (area : Area) : List Issue :=
  (area.neighbours.filter fun id => !world.areas.has id).map (.missingNeighbour area.id)

/-- What is wrong with the towns of an act. -/
def reviewAct (act : Act) : List Issue :=
  match world.townCount act with
  | 0 => [.noTown act]
  | 1 => []
  | count => [.manyTowns act count]

/-- What is wrong with an area that a kill unlocks. -/
def reviewUnlock (boss id : Letters) : List Issue :=
  match world.area? id with
  | none => [.unlocksMissing boss id]
  | some area => if area.hasWaypoint then [] else [.unlocksNoWaypoint boss id]

/-- What is wrong with the act of a quest. -/
def reviewQuest (quest : Quest) : List Issue :=
  if world.acts.any fun act => act.same quest.act then [] else [.unknownAct quest.id quest.act]

/-- All that is wrong with a world. -/
def review : List Issue :=
  world.areas.values.flatMap world.reviewArea ++
    (world.acts.mergeSort fun a b => a.value ≤ b.value).flatMap world.reviewAct ++
    world.unlocks.flatMap (fun (boss, ids) => ids.flatMap (world.reviewUnlock boss)) ++
    world.quests.values.flatMap world.reviewQuest

end Walkthrough.World

import Walkthrough.Number.Literal
import Walkthrough.Route.Diagnostic
import Walkthrough.Travel.Direction
import Walkthrough.Travel.Guide
import Walkthrough.Travel.Progress
import Walkthrough.Travel.Reward

/-!
# Attempting an action

A group is attempted against the guide. While it is attempted the progress is looked at and written
to in place, field by field, and at any moment the group may be refused. What was written before a
refusal stays written, so it matters that every check comes before the first writing.

* `Accepted` — what an accepted group yields.
* `Attempt` — programs that read and write the progress and may be refused, by `demand` and
  `expect`.
* `Verb.perform` — the program of a verb with the fields of a group; the first field is not looked
  at.
* `attempt` — attempting a group, whose first field names the verb.
-/

namespace Walkthrough

open Walkthrough.Text (Letters)

/-- What an accepted group yields: its action and the gems to pick up. -/
structure Accepted where
  action : Action
  rewards : List Reward
  deriving DecidableEq

/-- Programs that read and write the progress and may be refused midway. -/
abbrev Attempt := EStateM Refusal Progress

/-- What becomes of a group: it is accepted or refused, with the progress at that moment. -/
abbrev Outcome := EStateM.Result Refusal Progress Accepted

/-- A group that yields an action and no gems. -/
def accept (action : Action) : Attempt Accepted := pure ⟨action, []⟩

/-- Goes on if something holds, and refuses if it does not. -/
def demand (p : Prop) [Decidable p] (cause : Refusal) : Attempt Unit :=
  if p then pure () else throw cause

/-- Goes on with a value if there is one, and refuses if there is none. -/
def expect {α : Type} (value? : Option α) (cause : Refusal) : Attempt α :=
  match value? with
  | some value => pure value
  | none => throw cause

/-- The area of an id; an id without an area is refused. -/
def Guide.findArea (guide : Guide) (id : Letters) : Attempt Area :=
  expect (guide.world.area? id) (.unknownArea id)

variable (guide : Guide)

/-! ## The verbs -/

/-- A boss is killed: the waypoints that this unlocks become known. -/
def performKill (boss : String) : Attempt Accepted := do
  modify fun here =>
    { here with implicit := here.implicit.insertAll (guide.world.unlockedBy boss) }
  accept (.kill boss)

def performArea (id : Letters) : Attempt Accepted := do
  let area ← guide.findArea id
  accept (.area area.id)

/-- A town that is entered becomes the town to return to, and its waypoint becomes known. -/
def noteTown (area : Area) : Attempt Unit :=
  if area.isTown then do
    modify fun here => { here with lastTown := area.id }
    if area.hasWaypoint then
      modify fun here => { here with implicit := here.implicit.insert area.id }
  else pure ()

/-- An area is entered from the current one. -/
def performEnter (id : Letters) : Attempt Accepted := do
  let area ← guide.findArea id
  let here ← get
  demand (area.isConnectedTo here.currentArea) (.notConnected area.id)
  noteTown area
  modify fun here => { here with currentArea := area.id }
  accept (.enter area.id)

/-- The traveller returns to the last town. -/
def performTown : Attempt Accepted := do
  modify fun here => { here with currentArea := here.lastTown }
  accept .town

/-- The waypoint of the current area is used to travel to a known one; whoever uses a waypoint knows
it. -/
def performWaypoint (id : Letters) : Attempt Accepted := do
  let area ← guide.findArea id
  let here ← get
  demand (area.id ∈ here.known) (.waypointNotKnown area.id)
  -- The start of a run need not be an area of the world.
  let current ← expect (guide.world.area? here.currentArea) (.noWaypoint here.currentArea)
  demand current.hasWaypoint (.noWaypoint here.currentArea)
  modify fun here => { here with implicit := here.implicit.insert current.id }
  modify fun here => { here with used := here.used.insert area.id }
  modify fun here => { here with currentArea := area.id }
  accept (.waypoint (some area.id))

/-- The waypoint of the current area is picked up, unless it came with something else. -/
def performGetWaypoint : Attempt Accepted := do
  let here ← get
  let area ← guide.findArea here.currentArea
  demand area.hasWaypoint (.noWaypoint area.id)
  -- A waypoint that was picked up before may be picked up again.
  demand (area.id ∉ here.implicit) (.waypointAcquired area.id)
  modify fun here => { here with explicit := here.explicit.insert area.id }
  accept .getWaypoint

/-- A portal is opened in the current area. -/
def performSetPortal : Attempt Accepted := do
  modify fun here => { here with portalArea := some here.currentArea }
  accept .setPortal

/-- The portal is used: from its area it leads to the town of the act and stays open, from any town
it leads back to its area and closes. -/
def performUsePortal : Attempt Accepted := do
  let here ← get
  let portal ← expect here.openPortal? .portalNotSet
  let area ← guide.findArea here.currentArea
  if area.id = portal then
    -- This also holds in a town that the portal was opened in.
    let town ← expect (guide.townOf? area.act) (.actHasNoTown area.act area.id)
    modify fun here => { here with currentArea := town }
    accept .usePortal
  else
    demand area.isTown (.portalOutOfReach area.id)
    modify fun here => { here with currentArea := portal }
    modify fun here => { here with portalArea := none }
    accept .usePortal

/-- The labyrinth is completed, which ends in the last town. -/
def performAscend : Attempt Accepted := do
  let here ← get
  demand (here.currentArea = guide.labyrinth)
    (.notInLabyrinth (guide.world.areaName guide.labyrinth) here.currentArea)
  modify fun here => { here with currentArea := here.lastTown }
  accept .ascend

/-- The crafting recipes of an area are picked up; of the current one, if no other is named. -/
def performCrafting (id? : Option Letters) : Attempt Accepted := do
  let here ← get
  let area ← guide.findArea (id?.getD here.currentArea)
  modify fun here => { here with crafted := here.crafted.insert area.id }
  accept (.crafting area.recipes)

/-- The number that a text of degrees stands for. Underscores are not taken for digit separators. -/
def readDegrees? (text : String) : Option Binary64 :=
  if text.toList.contains '_' then none
  else (Number.readReal? text).filter fun number => number != .undefined

def performDir (text : String) : Attempt Accepted := do
  let number ← expect (readDegrees? text) .directionNotNumber
  let eighths ← expect (Direction.ofNumber? number) .directionNotEighth
  accept (.dir eighths)

/-- The positions of offers that fields name; each must be one of the given number of offers. -/
def offerPositions? (count : Nat) : List String → Option (List Nat)
  | [] => some []
  | field :: fields =>
    match Number.readWhole? field with
    | none => none
    | some n =>
      if 0 ≤ n ∧ n < count then (offerPositions? count fields).map (n.toNat :: ·) else none

/-- The offers of a quest that are considered: those at the positions, or all if there are none. -/
def Quest.considered (quest : Quest) (positions : List Nat) : List Offer :=
  if positions.isEmpty then quest.offers else positions.filterMap fun n => quest.offers[n]?

/-- A quest is handed in, and the build picks what it wants from the offers. -/
def performQuest (key : String) (fields : List String) : Attempt Accepted := do
  let quest ← expect (guide.world.quest? key) .unknownQuest
  let positions ← expect (offerPositions? quest.offers.length fields) .badFormat
  let here ← get
  let picked := Reward.collectFor guide.build (quest.considered positions) here.gems
  modify fun here => { here with gems := picked.2 }
  return ⟨.quest quest.id positions, picked.1⟩

/-! ## Groups -/

/-- The program of a verb with the fields of a group, the first of which stands for the verb and is
not looked at. -/
def Verb.perform : Verb → List String → Attempt Accepted
  | .kill, [_, boss] => performKill guide boss
  | .arena, [_, place] => accept (.arena place)
  | .area, [_, id] => performArea guide id
  | .enter, [_, id] => performEnter guide id
  | .town, [_] => performTown
  | .waypoint, [_] => accept (.waypoint none)
  | .waypoint, [_, id] => performWaypoint guide id
  | .getWaypoint, [_] => performGetWaypoint guide
  | .setPortal, [_] => performSetPortal
  | .usePortal, [_] => performUsePortal guide
  | .quest, _ :: key :: fields => performQuest guide key fields
  | .questText, [_, text] => accept (.questText text)
  | .generic, [_, text] => accept (.generic text)
  | .trial, [_] => accept .trial
  | .ascend, [_] => performAscend guide
  | .dir, [_, text] => performDir text
  | .crafting, [_, id] => performCrafting guide (some id)
  | .crafting, [_] | .crafting, [] => performCrafting guide none
  | _, _ => throw .badFormat

/-- The program of a group. A group without fields, or whose first field names no verb, is
refused. -/
def perform (fields : List String) : Attempt Accepted :=
  match fields.head?.bind Verb.ofName? with
  | none => throw .badFormat
  | some verb => verb.perform guide fields

def attempt (here : Progress) (fields : List String) : Outcome := (perform guide fields).run here

namespace Outcome

def progress : Outcome → Progress
  | .ok _ after => after
  | .error _ after => after

end Outcome

end Walkthrough

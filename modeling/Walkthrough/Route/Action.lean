import Walkthrough.Json.Basic
import Walkthrough.Route.Verb

/-!
# Actions and steps

A compiled route is a list of steps. A step is either a line of text in which actions stand where
the groups stood, or a gem to pick up after a quest.

What a document says is a text; what the world names is a row of letters, which may hold halves of
characters.

* `Action` — what an accepted group does, with just what is needed to show it.
* `Step` — a line or a reward.
* `Action.toJson`, `Step.toJson` — how they are written. Every object ends with its type.
-/

namespace Walkthrough

open Walkthrough.Text (Letters)

inductive Action
  | kill (boss : String)
  | arena (place : String)
  | area (id : Letters)
  | enter (id : Letters)
  | town
  /-- Travel to an area, or a mere reminder to use the waypoint. -/
  | waypoint (target : Option Letters)
  | getWaypoint
  | setPortal
  | usePortal
  /-- A quest is handed in. The positions of the offers asked for; none stands for all. -/
  | quest (id : Letters) (offers : List Nat)
  | questText (text : String)
  | generic (text : String)
  | trial
  | ascend
  /-- A direction in eighths of a turn. -/
  | dir (eighths : Fin 8)
  | crafting (recipes : List Letters)
  deriving DecidableEq

/-- Which side of an offer a gem comes from. -/
inductive Side
  /-- A reward of the quest itself. -/
  | quest
  /-- For sale after the quest. -/
  | vendor
  deriving DecidableEq

structure Reward where
  side : Side
  gem : Letters
  npc : Letters
  note : Option Letters
  deriving DecidableEq

inductive Part
  | text (words : String)
  | action (done : Action)
  deriving DecidableEq

inductive Step
  | line (parts : List Part)
  | reward (reward : Reward)
  deriving DecidableEq

abbrev Route := List Step

namespace Action

/-- The verb of a group that does this. -/
def verb : Action → Verb
  | kill _ => .kill
  | arena _ => .arena
  | area _ => .area
  | enter _ => .enter
  | town => .town
  | waypoint _ => .waypoint
  | getWaypoint => .getWaypoint
  | setPortal => .setPortal
  | usePortal => .usePortal
  | quest _ _ => .quest
  | questText _ => .questText
  | generic _ => .generic
  | trial => .trial
  | ascend => .ascend
  | dir _ => .dir
  | crafting _ => .crafting

/-- The members of an action besides its type. -/
def members : Action → List (String × Json)
  | kill text | arena text | questText text | generic text => [("value", .text text)]
  | area id | enter id => [("area_id", .string id)]
  | waypoint target => [("area_id", target.elim .null .string)]
  | quest id offers =>
    [("quest_id", .string id), ("reward_offer_ids", .array (offers.map fun (n : Nat) => .int n))]
  | dir eighths => [("dir_index", .int eighths.val)]
  | crafting recipes => [("crafting_recipes", .array (recipes.map .string))]
  | town | getWaypoint | setPortal | usePortal | trial | ascend => []

def toJson (action : Action) : Json :=
  .record (action.members ++ [("type", .text action.verb.name)])

end Action

def Side.word : Side → String
  | .quest => "quest"
  | .vendor => "vendor"

/-- A part of a line as it is written. -/
def Part.toJson : Part → Json
  | text words => .text words
  | action a => a.toJson

def Step.toJson : Step → Json
  | line parts =>
    .record [("parts", .array (parts.map Part.toJson)), ("type", .text "action_step")]
  | reward r =>
    .record [("reward_type", .text r.side.word), ("gem_id", .string r.gem),
      ("npc", .string r.npc), ("note", r.note.elim .null .string), ("type", .text "reward_step")]

/-- A list of routes as it is written. -/
def Route.listToJson (routes : List Route) : Json :=
  .array (routes.map fun route => .array (route.map Step.toJson))

end Walkthrough

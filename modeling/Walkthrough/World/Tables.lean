import Walkthrough.Shape
import Walkthrough.World.Basic

/-!
# Reading the tables of a world

Three JSON tables make a world. The areas must be there; the unlocks and the quests may be missing
or be nothing at all. Each table is checked against its shape, in this order, and then the key of
every area against its id.

* `World.areasShape`, `World.unlocksShape`, `World.questsShape` — the shapes.
* `World.ofTables` — the world that three tables describe, or the first thing wrong with them.
-/

namespace Walkthrough

open Shape
open Walkthrough.Text (Letters)

/-! ## Shapes -/

def Shape.names : Shape := list name

/-- Gems with the classes that may have them. -/
def Offer.gemsShape : Shape := dict (list text)

def Offer.shape : Shape :=
  record [⟨"quest_npc", true, text⟩, ⟨"quest", false, Offer.gemsShape⟩,
    ⟨"vendor", false, Offer.gemsShape⟩]

def Area.shape : Shape :=
  record [⟨"id", true, .name⟩, ⟨"act", true, count⟩, ⟨"name", true, .text⟩,
    ⟨"connection_ids", false, names⟩, ⟨"is_town_area", false, flag⟩,
    ⟨"has_waypoint", false, flag⟩, ⟨"crafting_recipes", false, list text⟩]

def Quest.shape : Shape :=
  record [⟨"id", true, .name⟩, ⟨"name", true, .text⟩, ⟨"act", true, count⟩,
    ⟨"reward_offers", false, list Offer.shape⟩]

def World.areasShape : Shape := dict Area.shape

def World.unlocksShape : Shape := dict names

def World.questsShape : Shape := dict Quest.shape

/-! ## Reading -/

/-- The lists of texts that the members of an object are. -/
def Offer.gems (json : Json) : Table Letters (List Letters) :=
  Table.ofEntries (json.members.map fun (gem, classes) => (gem, classes.items.map Json.asText))

/-- An offer as its table describes it. -/
def Offer.ofJson (json : Json) : Offer :=
  ⟨json.textAt "quest_npc", Offer.gems (json.valueAt "quest"), Offer.gems (json.valueAt "vendor")⟩

/-- An area as its table describes it. -/
def Area.ofJson (json : Json) : Area where
  id := json.textAt "id"
  act := Act.ofJson (json.valueAt "act")
  name := json.textAt "name"
  neighbours := json.textsAt "connection_ids"
  isTown := json.flagAt "is_town_area"
  hasWaypoint := json.flagAt "has_waypoint"
  recipes := json.textsAt "crafting_recipes"

/-- A quest as its table describes it. -/
def Quest.ofJson (json : Json) : Quest where
  id := json.textAt "id"
  name := json.textAt "name"
  act := Act.ofJson (json.valueAt "act")
  offers := (json.valueAt "reward_offers").items.map Offer.ofJson

inductive TableKind
  | areas
  | unlocks
  | quests
  | build
  deriving DecidableEq

def TableKind.words : TableKind → String
  | .areas => "areas"
  | .unlocks => "kill waypoints"
  | .quests => "quests"
  | .build => "build data"

inductive TableError
  /-- A table has not its shape. -/
  | shape (table : TableKind) (violation : Violation)
  /-- An area stands under a key that is not its id. -/
  | keyMismatch (key id : Letters)

def TableError.message : TableError → String
  | .shape table violation =>
    "Invalid " ++ table.words ++ " at " ++ violation.place ++ ": " ++ violation.fault.message
  | .keyMismatch key id =>
    "Area key '" ++ key.shown ++ "' does not match its id '" ++ id.shown ++ "'"

def checkShape (table : TableKind) (shape : Shape) (json : Json) : Except TableError Unit :=
  match Violation.reported? (shape json) with
  | none => .ok ()
  | some violation => .error (.shape table violation)

/-- Checks the keys of areas against their ids. -/
def checkKeys : Table Letters Area → Except TableError Unit
  | [] => .ok ()
  | (key, area) :: rest =>
    if key = area.id then checkKeys rest else .error (.keyMismatch key area.id)

/-- A table that may be missing: what is nothing reads as the empty table. -/
def Json.orEmpty (json : Json) : Json := if json.isNothing then .object [] else json

/-- The entries of a table, each value read. -/
def Json.entries {α : Type} (ofJson : Json → α) (json : Json) : Table Letters α :=
  Table.ofEntries (json.members.map fun (key, value) => (key, ofJson value))

def World.ofTables (areas unlocks quests : Json) : Except TableError World := do
  checkShape .areas World.areasShape areas
  checkShape .unlocks World.unlocksShape unlocks.orEmpty
  checkShape .quests World.questsShape quests.orEmpty
  let areaTable := areas.entries Area.ofJson
  checkKeys areaTable
  return {
    areas := areaTable
    unlocks := unlocks.orEmpty.entries fun ids => ids.items.map Json.asText
    quests := quests.orEmpty.entries Quest.ofJson }

end Walkthrough

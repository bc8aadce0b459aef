import Walkthrough.World.Act

/-!
# The world

What a walkthrough is read against: the areas and how they are connected, the waypoints that become
known when a boss is killed, and the quests with the gems that are offered for them. What a table
names may hold halves of characters that stand alone, so names are rows of letters.

* `World` — the three tables.
* `World.area?`, `World.quest?`, `World.unlockedBy` — looking things up.
* `World.towns` — the town of each act; of several towns of an act, the last one.
* `World.craftingAreas` — the areas that have crafting recipes.
-/

namespace Walkthrough

open Walkthrough.Text (Letters)

structure Area where
  id : Letters
  act : Act
  name : Letters
  /-- The areas from which it can be entered. -/
  neighbours : List Letters
  isTown : Bool
  hasWaypoint : Bool
  recipes : List Letters

/-- The gems that one person gives away, or sells, after a quest. Each comes with the classes that
may have it; an empty list stands for every class. -/
structure Offer where
  npc : Letters
  quest : Table Letters (List Letters)
  vendor : Table Letters (List Letters)

/-- A quest and what is offered for it. -/
structure Quest where
  id : Letters
  name : Letters
  act : Act
  offers : List Offer

structure World where
  areas : Table Letters Area
  unlocks : Table Letters (List Letters)
  quests : Table Letters Quest

/-- The town of each act, in the order in which the acts first had one. -/
abbrev Towns := List (Act × Letters)

namespace Towns

def of? (act : Act) : Towns → Option Letters
  | [] => none
  | (a, town) :: rest => if a.same act then some town else of? act rest

/-- The towns after one more area is seen to be a town: the last one of an act counts. -/
def put (act : Act) (town : Letters) : Towns → Towns
  | [] => [(act, town)]
  | (a, t) :: rest => if a.same act then (a, town) :: rest else (a, t) :: put act town rest

/-- After an area is seen to be a town it is the town of its act; other acts keep theirs. -/
theorem of?_put (act a : Act) (town : Letters) (towns : Towns) :
    of? a (put act town towns) = if act.same a then some town else of? a towns := by
  induction towns with
  | nil => rfl
  | cons entry rest ih =>
    obtain ⟨a', t⟩ := entry
    simp only [put, of?, Act.same, beq_iff_eq] at *
    grind [of?, Act.same]

end Towns

/-- Whether one may walk into the area from another one. -/
def Area.isConnectedTo (area : Area) (id : Letters) : Bool := area.neighbours.contains id

namespace World

variable (world : World)

def area? (id : Letters) : Option Area := world.areas.get? id

def quest? (key : Letters) : Option Quest := world.quests.get? key

/-- The areas whose waypoints are known once a boss is killed. -/
def unlockedBy (boss : Letters) : List Letters := (world.unlocks.get? boss).getD []

/-- The name of an area, or its id if there is no such area. -/
def areaName (id : Letters) : Letters :=
  match world.area? id with
  | some area => area.name
  | none => id

/-- The areas that have crafting recipes, in the order of the table. -/
def craftingAreas : List Area := world.areas.values.filter fun area => !area.recipes.isEmpty

/-- The areas that are towns, in the order of the table. -/
def townAreas : List Area := world.areas.values.filter (·.isTown)

def towns : Towns :=
  world.townAreas.foldl (fun towns area => towns.put area.act area.id) []

end World

end Walkthrough

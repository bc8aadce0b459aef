import Walkthrough.Route.Token
import Walkthrough.World.Act

/-!
# Diagnostics

What an author is told about a walkthrough. Either a group is refused, or the end of the run finds
something that was left undone.

* `Refusal` — why a group is refused.
* `Finding` — what was left undone.
* `Diagnostic` — either of them, with its kind, its message and the group it is about.
-/

namespace Walkthrough

open Walkthrough.Text (Letters)

inductive Refusal
  /-- The verb is unknown, or the fields are not those of the verb. -/
  | badFormat
  /-- There is no such area. -/
  | unknownArea (area : Letters)
  /-- The area has no waypoint. -/
  | noWaypoint (area : Letters)
  /-- The area cannot be entered from here. -/
  | notConnected (area : Letters)
  /-- The waypoint of the area is not known yet. -/
  | waypointNotKnown (area : Letters)
  /-- The waypoint of the area came with something else. -/
  | waypointAcquired (area : Letters)
  /-- No portal is open. -/
  | portalNotSet
  /-- The portal leads to the town of an act that has none. -/
  | actHasNoTown (act : Act) (area : Letters)
  /-- The portal is neither here nor in reach. -/
  | portalOutOfReach (area : Letters)
  /-- The labyrinth is not entered from here, but from the area of the given name. -/
  | notInLabyrinth (expected area : Letters)
  /-- A direction is no number. -/
  | directionNotNumber
  /-- A direction is no whole number of eighths of a turn. -/
  | directionNotEighth
  /-- There is no such quest. -/
  | unknownQuest
  deriving DecidableEq

inductive DiagnosticKind
  | format
  | unknownArea
  | missingWaypoint
  | semantic
  | unusedWaypoint
  | missingCraftingArea
  deriving DecidableEq

def DiagnosticKind.name : DiagnosticKind → String
  | .format => "format"
  | .unknownArea => "unknown_area"
  | .missingWaypoint => "missing_waypoint"
  | .semantic => "semantic"
  | .unusedWaypoint => "unused_waypoint"
  | .missingCraftingArea => "missing_crafting_area"

namespace Refusal

def kind : Refusal → DiagnosticKind
  | badFormat => .format
  | unknownArea _ => .unknownArea
  | noWaypoint _ => .missingWaypoint
  | _ => .semantic

def message : Refusal → String
  | badFormat => "invalid format"
  | unknownArea _ => "area does not exist"
  | noWaypoint _ => "area does not have a waypoint"
  | notConnected _ => "not connected to current area"
  | waypointNotKnown _ => "missing target waypoint"
  | waypointAcquired _ => "waypoint already acquired"
  | portalNotSet => "portal must be set"
  | actHasNoTown act _ => "act " ++ act.text ++ " has no town"
  | portalOutOfReach _ => "can only use portal from town or portal area"
  | notInLabyrinth expected _ => "must be in \"" ++ expected.shown ++ "\""
  | directionNotNumber => "dir value is not a number"
  | directionNotEighth => "dir value must be in intervals of 45"
  | unknownQuest => "quest does not exist"

/-- The area that a refusal is about. -/
def area? : Refusal → Option Letters
  | unknownArea area | noWaypoint area | notConnected area | waypointNotKnown area
  | waypointAcquired area | actHasNoTown _ area | portalOutOfReach area
  | notInLabyrinth _ area => some area
  | badFormat | portalNotSet | directionNotNumber | directionNotEighth | unknownQuest => none

end Refusal

/-- What was left undone at the end of a run. -/
inductive Finding
  /-- A waypoint was picked up and never travelled to. -/
  | unusedWaypoint (area : Letters)
  /-- The recipes of an area were never picked up. -/
  | missingCrafting (area : Letters) (recipes : List Letters)
  deriving DecidableEq

namespace Finding

def kind : Finding → DiagnosticKind
  | unusedWaypoint _ => .unusedWaypoint
  | missingCrafting _ _ => .missingCraftingArea

def message : Finding → String
  | unusedWaypoint area => "unused waypoint " ++ area.shown
  | missingCrafting area recipes =>
    "missing crafting area " ++ area.shown ++ ", " ++
      ", ".intercalate (recipes.map Letters.shown)

/-- The area that a finding is about. -/
def area : Finding → Letters
  | unusedWaypoint area => area
  | missingCrafting area _ => area

end Finding

inductive Diagnostic
  | refused (fields : List String) (cause : Refusal)
  | found (finding : Finding)
  deriving DecidableEq

namespace Diagnostic

def kind : Diagnostic → DiagnosticKind
  | refused _ cause => cause.kind
  | found finding => finding.kind

def message : Diagnostic → String
  | refused _ cause => cause.message
  | found finding => finding.message

/-- The fields of the group that was refused. -/
def fields? : Diagnostic → Option (List String)
  | refused fields _ => some fields
  | found _ => none

/-- The area that a diagnostic is about. -/
def area? : Diagnostic → Option Letters
  | refused _ cause => cause.area?
  | found finding => some finding.area

/-- The group that was refused, as it is written. -/
def groupText : Diagnostic → String
  | refused fields _ => String.ofList (Token.writeFields fields)
  | found _ => ""

end Diagnostic

end Walkthrough

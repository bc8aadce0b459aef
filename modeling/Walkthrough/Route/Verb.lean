/-!
# Verbs

The first field of a group names what is to be done. There are sixteen verbs, each with one name;
`Verb.ofName?_name` and `Verb.name_of_ofName?` make names and verbs correspond.
-/

namespace Walkthrough

inductive Verb
  | kill
  | arena
  | area
  | enter
  | town
  | waypoint
  | getWaypoint
  | setPortal
  | usePortal
  | quest
  | questText
  | generic
  | trial
  | ascend
  | dir
  | crafting
  deriving DecidableEq

namespace Verb

def all : List Verb :=
  [kill, arena, area, enter, town, waypoint, getWaypoint, setPortal, usePortal, quest, questText,
    generic, trial, ascend, dir, crafting]

/-- The name of a verb in a group. -/
def name : Verb → String
  | kill => "kill"
  | arena => "arena"
  | area => "area"
  | enter => "enter"
  | town => "town"
  | waypoint => "waypoint"
  | getWaypoint => "get_waypoint"
  | setPortal => "set_portal"
  | usePortal => "use_portal"
  | quest => "quest"
  | questText => "quest_text"
  | generic => "generic"
  | trial => "trial"
  | ascend => "ascend"
  | dir => "dir"
  | crafting => "crafting"

def ofName? (name : String) : Option Verb := all.find? fun verb => verb.name == name

theorem ofName?_name (verb : Verb) : ofName? verb.name = some verb := by
  cases verb <;> decide

theorem name_of_ofName? {name : String} {verb : Verb} (h : ofName? name = some verb) :
    verb.name = name := by
  simpa using List.find?_some h

end Verb

end Walkthrough

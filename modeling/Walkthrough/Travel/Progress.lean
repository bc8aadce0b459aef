import Walkthrough.Travel.IdSet

/-!
# The progress of a run

What is known of the traveller between two groups: where they stand, which town they were in last,
where their portal is, and what they have learnt and picked up. One progress is shared by all
documents of a run.

* `Progress` — the eight fields.
* `Progress.start` — before the first group.
* `Progress.known`, `Progress.unused` — the waypoints that may be travelled to, and those that were
  picked up in vain.
-/

namespace Walkthrough

open Walkthrough.Text (Letters)

structure Progress where
  currentArea : Letters
  lastTown : Letters
  /-- The area where the portal was opened. -/
  portalArea : Option Letters
  /-- Waypoints that came with something else. -/
  implicit : IdSet
  /-- Waypoints that were picked up for their own sake. -/
  explicit : IdSet
  /-- Waypoints that were travelled to. -/
  used : IdSet
  /-- Areas whose crafting recipes were picked up. -/
  crafted : IdSet
  /-- Gems that were picked up. -/
  gems : IdSet
  deriving DecidableEq

namespace Progress

/-- The progress at the start, in an area and with a town to return to. -/
def start (area town : Letters) : Progress := ⟨area, town, none, ∅, ∅, ∅, ∅, ∅⟩

/-- The waypoints that may be travelled to. -/
def known (p : Progress) : IdSet := p.implicit.union p.explicit

/-- The waypoints that were picked up and never travelled to. -/
def unused (p : Progress) : IdSet := p.explicit.diff p.used

/-- The area of the portal that is open. An empty id stands for no portal. -/
def openPortal? (p : Progress) : Option Letters :=
  p.portalArea.filter fun area => !area.isEmpty

end Progress

end Walkthrough

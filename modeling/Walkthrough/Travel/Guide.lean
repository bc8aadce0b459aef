import Walkthrough.Build

/-!
# Guides

A guide is what a walkthrough is read against: the world, the town of each act, the build to pick up
gems for, if there is one, and the area from which the labyrinth is entered. A run never changes it.

* `Guide` — with `Guide.of` for the guide of a world, whose towns are those of the world.
-/

namespace Walkthrough

open Walkthrough.Text (Letters)

structure Guide where
  world : World
  /-- The towns that portals lead to. -/
  towns : Towns
  build : Option Build
  /-- The id of the area from which one ascends. -/
  labyrinth : Letters

namespace Guide

def of (world : World) (build : Option Build) (labyrinth : Letters) : Guide :=
  ⟨world, world.towns, build, labyrinth⟩

def townOf? (guide : Guide) (act : Act) : Option Letters := guide.towns.of? act

end Guide

end Walkthrough

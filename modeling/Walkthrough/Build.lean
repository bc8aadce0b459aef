import Walkthrough.World.Tables

/-!
# Builds

A build is what a player wants to become: a class, and the gems to pick up on the way in the order
of their importance.
-/

namespace Walkthrough

open Walkthrough.Text (Letters)

/-- A gem that a build wants, with a note that may be empty. -/
structure WantedGem where
  id : Letters
  note : Letters

/-- A class and the gems it wants. -/
structure Build where
  characterClass : Letters
  gems : List WantedGem

namespace Build

def shape : Shape :=
  .record [⟨"characterClass", true, .name⟩,
    ⟨"requiredGems", false, .list (.record [⟨"id", true, .name⟩, ⟨"note", false, .text⟩])⟩]

def ofJson (json : Json) : Except TableError Build := do
  checkShape .build shape json
  return {
    characterClass := json.textAt "characterClass"
    gems := (json.valueAt "requiredGems").items.map fun gem =>
      ⟨gem.textAt "id", gem.textAt "note"⟩ }

end Build

end Walkthrough

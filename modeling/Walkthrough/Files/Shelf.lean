import Walkthrough.Build
import Walkthrough.Files.Disk
import Walkthrough.Json.Reader
import Walkthrough.Run.Log
import Walkthrough.World.Review

/-!
# Loading worlds and builds

A world is loaded from a folder with three tables, of which only the areas must be there. A world
that was loaded stays on a shelf under its folder, and is taken from there the next time, unless it
is asked for afresh.

* `LoadError` — why nothing could be loaded.
* `loadWorld`, `loadBuild` — loading from files, where so many brackets may be open at once.
* `Shelf.load` — taking a world from the shelf, or loading it and putting it there. What fails to
  load leaves the shelf as it is.
-/

namespace Walkthrough

open Walkthrough.Text

inductive LoadError
  /-- A file that must be there is not. -/
  | missing (path : Path)
  /-- A file holds no JSON. -/
  | notJson (path : Path)
  /-- A file holds too much of something. -/
  | excess (cause : Json.Excess)
  /-- A file cannot be read, or holds no text. -/
  | document (error : DocumentError)
  /-- A table does not describe what it should. -/
  | table (error : TableError)

def LoadError.message : LoadError → String
  | .missing path => "Data file not found: " ++ path.text
  | .notJson path => "Invalid JSON in " ++ path.text
  | .excess cause => cause.message
  | .document error => error.message
  | .table error => error.message

/-- Whether a path leads to nothing. One that is too long is looked into, which fails. -/
def Disk.lacks (disk : Disk) (path : Path) : Bool :=
  match disk path with
  | .absent | .blocked | .unnameable => true
  | .denied denial => denial.leadsNowhere
  | .tooLong | .folder | .file _ => false

section Reading

variable (nesting : Nat) (disk : Disk)

def readJson (path : Path) : Except LoadError Json :=
  match readText disk path with
  | .error error => .error (.document error)
  | .ok cs =>
    match Json.read nesting cs with
    | .ok json => .ok json
    | .error .malformed => .error (.notJson path)
    | .error (.excess cause) => .error (.excess cause)

/-- The value of a file that must be there. -/
def readRequired (path : Path) : Except LoadError Json :=
  if disk.lacks path then .error (.missing path) else readJson nesting disk path

/-- The value of a file that may be missing: then it is the empty object. -/
def readOptional (path : Path) : Except LoadError Json :=
  if disk.lacks path then .ok (.object []) else readJson nesting disk path

/-- What a table error is when loading. -/
def liftTable {α : Type} : Except TableError α → Except LoadError α
  | .ok value => .ok value
  | .error error => .error (.table error)

/-- The world in a folder. All files are read before any of them is checked. -/
def loadWorld (folder : Path) : Except LoadError World := do
  let areas ← readRequired nesting disk (folder.child "areas.json")
  let unlocks ← readOptional nesting disk (folder.child "kill_waypoints.json")
  let quests ← readOptional nesting disk (folder.child "quests.json")
  liftTable (World.ofTables areas unlocks quests)

def loadBuild (path : Path) : Except LoadError Build := do
  let json ← readRequired nesting disk path
  liftTable (Build.ofJson json)

end Reading

/-- The log of loading a world: what is wrong with it, and how large it is. -/
def loadLog (folder : Path) (world : World) : List LogLine :=
  world.review.map (fun issue => ⟨.warning, .loader, "[WORLD WARNING] " ++ issue.message⟩) ++
    [⟨.debug, .loader, "Loaded " ++ toString world.areas.length ++ " areas, " ++
      toString world.quests.length ++ " quests from " ++ folder.text⟩]

/-- A world that was loaded. Worlds are numbered in the order in which they are loaded. -/
structure Loaded where
  serial : Nat
  world : World

/-- The worlds that were loaded last from each folder. -/
structure Shelf where
  worlds : List (Path × Loaded)
  /-- How many worlds were loaded so far. -/
  count : Nat

namespace Shelf

def empty : Shelf := ⟨[], 0⟩

/-- The world on the shelf under a folder. -/
def get? (shelf : Shelf) (folder : Path) : Option Loaded := shelf.worlds.lookup folder

/-- The shelf after a world is loaded from a folder. -/
def put (shelf : Shelf) (folder : Path) (world : World) : Shelf :=
  ⟨(folder, ⟨shelf.count, world⟩) :: shelf.worlds.filter fun entry => entry.1 != folder,
    shelf.count + 1⟩

structure Answer where
  result : Except LoadError Loaded
  log : List LogLine
  shelf : Shelf

/-- Loading a world afresh and putting it on the shelf. -/
def reload (shelf : Shelf) (nesting : Nat) (disk : Disk) (folder : Path) : Answer :=
  match loadWorld nesting disk folder with
  | .ok world => ⟨.ok ⟨shelf.count, world⟩, loadLog folder world, shelf.put folder world⟩
  | .error error => ⟨.error error, [], shelf⟩

/-- Taking a world from the shelf if that will do, else loading it. -/
def load (shelf : Shelf) (nesting : Nat) (disk : Disk) (folder : Path) (fromShelf : Bool) :
    Answer :=
  match if fromShelf then shelf.get? folder else none with
  | some loaded => ⟨.ok loaded, [], shelf⟩
  | none => shelf.reload nesting disk folder

end Shelf

end Walkthrough

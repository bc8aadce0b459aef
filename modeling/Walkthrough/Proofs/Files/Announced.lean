import Walkthrough.Proofs.Files.Fault

/-!
# Errors that loading does not announce

Loading announces that it fails in three ways: a file that must be there is missing, a file holds no
JSON, or a table is not what it should be. What keeps a file from being read as JSON at all comes
through as it is: a folder in the place of the file, a name that is too long, a file that may not be
opened, bytes that encode no text, and texts with too much of something. These are just the ways to
fail without notice.

* `LoadError.isAnnounced` — whether an error is one of the three;
* `Disk.FirstObstacle` — what keeps a folder from being read, of all its files the first;
* `only_obstacles_are_unannounced` — a world or a build fails to load without notice just there.
-/

namespace Walkthrough

open Walkthrough.Text

/-- Whether loading announces that it may fail like this. -/
def LoadError.isAnnounced : LoadError → Bool
  | .missing _ | .notJson _ | .table _ => true
  | .excess _ | .document _ => false

/-- What keeps a folder from being read: it is in the way of a file, and all files before it hold
JSON or may be missing. -/
inductive Disk.FirstObstacle (disk : Disk) (nesting : Nat) (folder : Path) (error : LoadError) :
    Prop
  | areas (h : disk.Obstructs nesting (folder.child "areas.json") error)
  | unlocks {areas : Json} (hareas : disk.Holds nesting (folder.child "areas.json") areas)
      (h : disk.Obstructs nesting (folder.child "kill_waypoints.json") error)
  | quests {areas unlocks : Json} (hareas : disk.Holds nesting (folder.child "areas.json") areas)
      (hunlocks : disk.MayHold nesting (folder.child "kill_waypoints.json") unlocks)
      (h : disk.Obstructs nesting (folder.child "quests.json") error)

section Obstacles

variable {disk : Disk} {nesting : Nat} {path folder : Path} {error : LoadError}

/-- What keeps a file from being read is never announced. -/
theorem Disk.Obstructs.isAnnounced_eq_false (h : disk.Obstructs nesting path error) :
    error.isAnnounced = false := by
  cases h <;> rfl

theorem Disk.obstructs_iff :
    disk.Obstructs nesting path error ↔
      disk.Spoils nesting path error ∧ error.isAnnounced = false := by
  constructor
  · intro h
    exact ⟨.obstructed h, h.isAnnounced_eq_false⟩
  · rintro ⟨h, hannounced⟩
    cases h with
    | obstructed h => exact h
    | notJson => cases hannounced

theorem Disk.firstObstacle_iff :
    disk.FirstObstacle nesting folder error ↔
      disk.FirstFault nesting folder error ∧ error.isAnnounced = false := by
  constructor
  · intro h
    cases h with
    | areas h => exact ⟨.areas (.obstructed h), h.isAnnounced_eq_false⟩
    | unlocks hareas h => exact ⟨.unlocks hareas (.obstructed h), h.isAnnounced_eq_false⟩
    | quests hareas hunlocks h =>
        exact ⟨.quests hareas hunlocks (.obstructed h), h.isAnnounced_eq_false⟩
  · rintro ⟨h, hannounced⟩
    cases h with
    | missing => cases hannounced
    | areas h => exact .areas (obstructs_iff.mpr ⟨h, hannounced⟩)
    | unlocks hareas h => exact .unlocks hareas (obstructs_iff.mpr ⟨h, hannounced⟩)
    | quests hareas hunlocks h =>
        exact .quests hareas hunlocks (obstructs_iff.mpr ⟨h, hannounced⟩)
    | tables => cases hannounced

/-- The three ways in which a build fails to load. -/
theorem loadBuild_eq_error_iff :
    loadBuild nesting disk path = .error error ↔
      (disk.lacks path = true ∧ error = .missing path ∨ disk.Spoils nesting path error) ∨
        ∃ json cause, disk.Holds nesting path json ∧ Build.ofJson json = .error cause ∧
          error = .table cause := by
  unfold loadBuild
  simp only [bind_eq_error_iff, readRequired_eq_ok_iff, readRequired_eq_error_iff,
    liftTable_eq_error_iff, exists_and_left]

end Obstacles

/-- Whatever is at the ends of the paths, a world or a build is loaded or fails to load. It fails
with an error that is not announced exactly if something keeps one of its files from being read, and
no file before it is at fault. -/
theorem only_obstacles_are_unannounced (nesting : Nat) (disk : Disk) :
    (∀ (shelf : Shelf) (folder : Path) (fromShelf : Bool) (error : LoadError),
      (shelf.load nesting disk folder fromShelf).result = .error error ∧
          error.isAnnounced = false ↔
        (fromShelf = false ∨ shelf.get? folder = none) ∧
          disk.FirstObstacle nesting folder error) ∧
    ∀ (path : Path) (error : LoadError),
      loadBuild nesting disk path = .error error ∧ error.isAnnounced = false ↔
        disk.Obstructs nesting path error := by
  constructor
  · intro shelf folder fromShelf error
    rw [Shelf.result_load_eq_error_iff, and_assoc, ← Disk.firstObstacle_iff]
  · intro path error
    rw [loadBuild_eq_error_iff]
    constructor
    · rintro ⟨(⟨-, rfl⟩ | hspoils) | ⟨json, cause, -, -, rfl⟩, hannounced⟩
      · cases hannounced
      · exact Disk.obstructs_iff.mpr ⟨hspoils, hannounced⟩
      · cases hannounced
    · intro h
      exact ⟨.inl (.inr (.obstructed h)), h.isAnnounced_eq_false⟩

namespace Wreck

/-- A folder whose table of areas is a byte that no text starts with. -/
def disk : Disk := fun path =>
  if path = ⟨0, ["w", "areas.json"]⟩ then .file [0xFF] else .absent

end Wreck

/-- Bytes that encode no text are not announced, neither for a world nor for a build. -/
theorem the_wreck_fails_without_notice :
    (Shelf.empty.load Host.standard.nesting Wreck.disk ⟨0, ["w"]⟩ true).result =
        .error (.document (.encoding ⟨0xFF, 0, 1, .invalidStart⟩)) ∧
      loadBuild Host.standard.nesting Wreck.disk ⟨0, ["w", "areas.json"]⟩ =
        .error (.document (.encoding ⟨0xFF, 0, 1, .invalidStart⟩)) ∧
      (LoadError.document (.encoding ⟨0xFF, 0, 1, .invalidStart⟩)).isAnnounced = false := by
  have hspoils : Wreck.disk.Spoils Host.standard.nesting ⟨0, ["w", "areas.json"]⟩
      (.document (.encoding ⟨0xFF, 0, 1, .invalidStart⟩)) :=
    .obstructed (.encoding (rfl : _ = Entry.file [0xFF]) rfl)
  exact ⟨Shelf.result_load_eq_error_iff.mpr ⟨.inr rfl, .areas hspoils⟩,
    loadBuild_eq_error_iff.mpr (.inl (.inr hspoils)), rfl⟩

end Walkthrough

import Walkthrough.Files.Shelf
import Walkthrough.Proofs.World.Fault

/-!
# What the files of a folder hold

Loading a world is said here without the loader, by what is found at three paths. There is a world
in a folder if its files hold tables that describe one. Otherwise one fault is told: all files are
read, one after the other, before any of them is checked, so a file that cannot be read is told
first, whatever is wrong with the tables in the files before it.

* `Disk.Holds`, `Disk.MayHold` — the value of a file, and of a file that may be missing;
* `Disk.Obstructs`, `Disk.Spoils` — why a path that leads somewhere leads to no such value;
* `Disk.HoldsWorld` — the world in a folder; `loadWorld_eq_ok_iff`: it is the one that is loaded;
* `Disk.FirstFault` — the fault of a folder that is told, and `loadWorld_eq_error_iff`.
-/

namespace Walkthrough

open Walkthrough.Text

/-! ## Files -/

namespace Disk

/-- Whether a file holds a JSON value, where so many brackets may be open at once. -/
def Holds (disk : Disk) (nesting : Nat) (path : Path) (json : Json) : Prop :=
  ∃ bytes cs, disk path = .file bytes ∧ Utf8.decode bytes = .ok cs ∧
    Json.read nesting (unifyNewlines cs) = .ok json

/-- Whether a file holds a JSON value, or is missing, which stands for the empty object. -/
def MayHold (disk : Disk) (nesting : Nat) (path : Path) (json : Json) : Prop :=
  disk.lacks path = true ∧ json = .object [] ∨ disk.Holds nesting path json

/-- What keeps the JSON at a path, if it is any, from being read. -/
inductive Obstructs (disk : Disk) (nesting : Nat) (path : Path) : LoadError → Prop
  | folder (h : disk path = .folder) :
      Obstructs disk nesting path (.document (.file (.isFolder path)))
  | tooLong (h : disk path = .tooLong) :
      Obstructs disk nesting path (.document (.file (.tooLong path)))
  | denied {denial : Denial} (h : disk path = .denied denial)
      (hthere : denial.leadsNowhere = false) :
      Obstructs disk nesting path (.document (.file (.denied denial path)))
  | encoding {bytes : List UInt8} {fault : Utf8.Fault} (hfile : disk path = .file bytes)
      (h : Utf8.decode bytes = .error fault) :
      Obstructs disk nesting path (.document (.encoding fault))
  | excess {bytes : List UInt8} {cs : List Char} {cause : Json.Excess}
      (hfile : disk path = .file bytes) (htext : Utf8.decode bytes = .ok cs)
      (h : Json.read nesting (unifyNewlines cs) = .error (.excess cause)) :
      Obstructs disk nesting path (.excess cause)

/-- Why a path that leads somewhere leads to no JSON value. -/
inductive Spoils (disk : Disk) (nesting : Nat) (path : Path) : LoadError → Prop
  | obstructed {error : LoadError} (h : disk.Obstructs nesting path error) :
      Spoils disk nesting path error
  | notJson {bytes : List UInt8} {cs : List Char} (hfile : disk path = .file bytes)
      (htext : Utf8.decode bytes = .ok cs)
      (h : Json.read nesting (unifyNewlines cs) = .error .malformed) :
      Spoils disk nesting path (.notJson path)

variable {disk : Disk} {nesting : Nat} {path : Path} {json : Json} {error : LoadError}

theorem lacks_of_file {bytes : List UInt8} (hfile : disk path = .file bytes) :
    disk.lacks path = false := by
  rw [lacks, hfile]

theorem Holds.lacks_eq_false (h : disk.Holds nesting path json) : disk.lacks path = false := by
  obtain ⟨bytes, cs, hfile, -, -⟩ := h
  exact lacks_of_file hfile

theorem Obstructs.lacks_eq_false (h : disk.Obstructs nesting path error) :
    disk.lacks path = false := by
  cases h with
  | folder h => rw [lacks, h]
  | tooLong h => rw [lacks, h]
  | denied h hthere => rw [lacks, h]; exact hthere
  | encoding hfile => exact lacks_of_file hfile
  | excess hfile => exact lacks_of_file hfile

theorem Spoils.lacks_eq_false (h : disk.Spoils nesting path error) : disk.lacks path = false := by
  cases h with
  | obstructed h => exact h.lacks_eq_false
  | notJson hfile => exact lacks_of_file hfile

theorem not_holds (h : disk.lacks path = true) : ¬disk.Holds nesting path json := by
  intro hholds
  cases hholds.lacks_eq_false.symm.trans h

theorem not_spoils (h : disk.lacks path = true) : ¬disk.Spoils nesting path error := by
  intro hspoils
  cases hspoils.lacks_eq_false.symm.trans h

/-- A path that leads somewhere leads to a JSON value, or something is wrong there. -/
theorem holds_or_spoils (nesting : Nat) (h : disk.lacks path = false) :
    (∃ json, disk.Holds nesting path json) ∨ ∃ error, disk.Spoils nesting path error := by
  rw [lacks] at h
  cases hentry : disk path with
  | absent => simp [hentry] at h
  | blocked => simp [hentry] at h
  | unnameable => simp [hentry] at h
  | denied denial =>
      simp only [hentry] at h
      exact .inr ⟨_, .obstructed (.denied hentry h)⟩
  | folder => exact .inr ⟨_, .obstructed (.folder hentry)⟩
  | tooLong => exact .inr ⟨_, .obstructed (.tooLong hentry)⟩
  | file bytes =>
      cases htext : Utf8.decode bytes with
      | error fault => exact .inr ⟨_, .obstructed (.encoding hentry htext)⟩
      | ok cs =>
          cases hread : Json.read nesting (unifyNewlines cs) with
          | ok json => exact .inl ⟨json, bytes, cs, hentry, htext, hread⟩
          | error error =>
              cases error with
              | malformed => exact .inr ⟨_, .notJson hentry htext hread⟩
              | excess cause => exact .inr ⟨_, .obstructed (.excess hentry htext hread)⟩

theorem Holds.sound (h : disk.Holds nesting path json) : json.Sound := by
  obtain ⟨bytes, cs, -, -, hread⟩ := h
  exact Json.sound_of_read hread

theorem MayHold.sound (h : disk.MayHold nesting path json) : json.Sound := by
  rcases h with ⟨-, rfl⟩ | h
  · exact .object List.nodup_nil nofun
  · exact h.sound

theorem Holds.distinct (h : disk.Holds nesting path json) : json.Distinct := h.sound.distinct

theorem MayHold.distinct (h : disk.MayHold nesting path json) : json.Distinct := h.sound.distinct

end Disk

/-! ## Reading them -/

section Reading

variable {disk : Disk} {nesting : Nat} {path folder : Path} {json : Json} {error : LoadError}

theorem readJson_of_holds (h : disk.Holds nesting path json) :
    readJson nesting disk path = .ok json := by
  obtain ⟨bytes, cs, hfile, htext, hread⟩ := h
  simp [readJson, readText, Disk.read, hfile, htext, hread]

theorem readJson_of_spoils (h : disk.Spoils nesting path error) :
    readJson nesting disk path = .error error := by
  cases h with
  | obstructed h =>
      cases h with
      | folder h => simp [readJson, readText, Disk.read, h]
      | tooLong h => simp [readJson, readText, Disk.read, h]
      | denied h => simp [readJson, readText, Disk.read, h]
      | encoding hfile h => simp [readJson, readText, Disk.read, hfile, h]
      | excess hfile htext h => simp [readJson, readText, Disk.read, hfile, htext, h]
  | notJson hfile htext h => simp [readJson, readText, Disk.read, hfile, htext, h]

theorem readJson_eq_ok_iff (hlacks : disk.lacks path = false) :
    readJson nesting disk path = .ok json ↔ disk.Holds nesting path json := by
  refine ⟨fun h => ?_, readJson_of_holds⟩
  rcases Disk.holds_or_spoils nesting hlacks with ⟨other, hholds⟩ | ⟨error, hspoils⟩
  · rwa [← Except.ok.inj ((readJson_of_holds hholds).symm.trans h)]
  · cases (readJson_of_spoils hspoils).symm.trans h

theorem readJson_eq_error_iff (hlacks : disk.lacks path = false) :
    readJson nesting disk path = .error error ↔ disk.Spoils nesting path error := by
  refine ⟨fun h => ?_, readJson_of_spoils⟩
  rcases Disk.holds_or_spoils nesting hlacks with ⟨json, hholds⟩ | ⟨other, hspoils⟩
  · cases (readJson_of_holds hholds).symm.trans h
  · rwa [← Except.error.inj ((readJson_of_spoils hspoils).symm.trans h)]

theorem readRequired_eq_ok_iff :
    readRequired nesting disk path = .ok json ↔ disk.Holds nesting path json := by
  cases hlacks : disk.lacks path with
  | true =>
      rw [readRequired, if_pos hlacks]
      simp [Disk.not_holds hlacks]
  | false =>
      rw [readRequired, hlacks, if_neg Bool.false_ne_true]
      exact readJson_eq_ok_iff hlacks

theorem readRequired_eq_error_iff :
    readRequired nesting disk path = .error error ↔
      disk.lacks path = true ∧ error = .missing path ∨ disk.Spoils nesting path error := by
  cases hlacks : disk.lacks path with
  | true =>
      rw [readRequired, if_pos hlacks, or_iff_left (Disk.not_spoils hlacks)]
      simp [eq_comm]
  | false =>
      rw [readRequired, hlacks, if_neg Bool.false_ne_true, readJson_eq_error_iff hlacks]
      simp

theorem readOptional_eq_ok_iff :
    readOptional nesting disk path = .ok json ↔ disk.MayHold nesting path json := by
  cases hlacks : disk.lacks path with
  | true =>
      rw [readOptional, if_pos hlacks, Disk.MayHold, or_iff_left (Disk.not_holds hlacks)]
      simp [hlacks, eq_comm]
  | false =>
      rw [readOptional, hlacks, if_neg Bool.false_ne_true, readJson_eq_ok_iff hlacks, Disk.MayHold]
      simp [hlacks]

theorem readOptional_eq_error_iff :
    readOptional nesting disk path = .error error ↔ disk.Spoils nesting path error := by
  cases hlacks : disk.lacks path with
  | true =>
      rw [readOptional, if_pos hlacks]
      simp [Disk.not_spoils hlacks]
  | false =>
      rw [readOptional, hlacks, if_neg Bool.false_ne_true]
      exact readJson_eq_error_iff hlacks

theorem liftTable_eq_ok_iff {α : Type} {x : Except TableError α} {value : α} :
    liftTable x = .ok value ↔ x = .ok value := by
  cases x <;> simp [liftTable]

theorem liftTable_eq_error_iff {α : Type} {x : Except TableError α} :
    liftTable x = .error error ↔ ∃ cause, x = .error cause ∧ error = .table cause := by
  cases x <;> simp [liftTable, eq_comm]

/-! ## Folders -/

/-- Whether the files in a folder describe a world. -/
inductive Disk.HoldsWorld (disk : Disk) (nesting : Nat) (folder : Path) (world : World) : Prop
  | tables {areas unlocks quests : Json}
      (hareas : disk.Holds nesting (folder.child "areas.json") areas)
      (hunlocks : disk.MayHold nesting (folder.child "kill_waypoints.json") unlocks)
      (hquests : disk.MayHold nesting (folder.child "quests.json") quests)
      (h : World.Described areas unlocks quests world)

/-- The fault of a folder that is told. -/
inductive Disk.FirstFault (disk : Disk) (nesting : Nat) (folder : Path) : LoadError → Prop
  | missing (h : disk.lacks (folder.child "areas.json") = true) :
      FirstFault disk nesting folder (.missing (folder.child "areas.json"))
  | areas {error : LoadError} (h : disk.Spoils nesting (folder.child "areas.json") error) :
      FirstFault disk nesting folder error
  | unlocks {areas : Json} {error : LoadError}
      (hareas : disk.Holds nesting (folder.child "areas.json") areas)
      (h : disk.Spoils nesting (folder.child "kill_waypoints.json") error) :
      FirstFault disk nesting folder error
  | quests {areas unlocks : Json} {error : LoadError}
      (hareas : disk.Holds nesting (folder.child "areas.json") areas)
      (hunlocks : disk.MayHold nesting (folder.child "kill_waypoints.json") unlocks)
      (h : disk.Spoils nesting (folder.child "quests.json") error) :
      FirstFault disk nesting folder error
  | tables {areas unlocks quests : Json} {error : TableError} {message : String}
      (hareas : disk.Holds nesting (folder.child "areas.json") areas)
      (hunlocks : disk.MayHold nesting (folder.child "kill_waypoints.json") unlocks)
      (hquests : disk.MayHold nesting (folder.child "quests.json") quests)
      (h : World.FirstFault areas unlocks quests error message) :
      FirstFault disk nesting folder (.table error)

/-- Tables that make a world make the one that is loaded from their folder. -/
theorem loadWorld_of_ofTables {areas unlocks quests : Json} {world : World}
    (hareas : disk.Holds nesting (folder.child "areas.json") areas)
    (hunlocks : disk.MayHold nesting (folder.child "kill_waypoints.json") unlocks)
    (hquests : disk.MayHold nesting (folder.child "quests.json") quests)
    (h : World.ofTables areas unlocks quests = .ok world) :
    loadWorld nesting disk folder = .ok world := by
  unfold loadWorld
  simp only [bind_eq_ok_iff, readRequired_eq_ok_iff, readOptional_eq_ok_iff, liftTable_eq_ok_iff]
  exact ⟨areas, hareas, unlocks, hunlocks, quests, hquests, h⟩

/-- The world that is loaded from a folder is just the one that is there. -/
theorem loadWorld_eq_ok_iff {world : World} :
    loadWorld nesting disk folder = .ok world ↔ disk.HoldsWorld nesting folder world := by
  constructor
  · intro h
    unfold loadWorld at h
    simp only [bind_eq_ok_iff, readRequired_eq_ok_iff, readOptional_eq_ok_iff,
      liftTable_eq_ok_iff] at h
    obtain ⟨areas, hareas, unlocks, hunlocks, quests, hquests, hworld⟩ := h
    refine .tables hareas hunlocks hquests ?_
    exact (World.described_iff hareas.distinct hunlocks.distinct hquests.distinct).mpr
      (World.ofTables_eq_ok_iff.mp hworld)
  · rintro ⟨hareas, hunlocks, hquests, hworld⟩
    exact loadWorld_of_ofTables hareas hunlocks hquests (World.ofTables_eq_ok_iff.mpr
      ((World.described_iff hareas.distinct hunlocks.distinct hquests.distinct).mp hworld))

/-- What loading a folder fails with is just what is told first. -/
theorem loadWorld_eq_error_iff :
    loadWorld nesting disk folder = .error error ↔ disk.FirstFault nesting folder error := by
  unfold loadWorld
  simp only [bind_eq_error_iff, readRequired_eq_ok_iff, readRequired_eq_error_iff,
    readOptional_eq_ok_iff, readOptional_eq_error_iff, liftTable_eq_error_iff]
  constructor
  · -- the files fail one after the other, and the tables only after all of them
    rintro ((⟨hlacks, rfl⟩ | h) | ⟨areas, hareas, h | ⟨unlocks, hunlocks, h |
      ⟨quests, hquests, cause, hcause, rfl⟩⟩⟩)
    · exact .missing hlacks
    · exact .areas h
    · exact .unlocks hareas h
    · exact .quests hareas hunlocks h
    · exact .tables hareas hunlocks hquests ((World.ofTables_eq_error_iff hareas.distinct
        hunlocks.distinct hquests.distinct).mp ⟨hcause, rfl⟩)
  · intro h
    cases h with
    | missing hlacks => exact .inl (.inl ⟨hlacks, rfl⟩)
    | areas h => exact .inl (.inr h)
    | unlocks hareas h => exact .inr ⟨_, hareas, .inl h⟩
    | quests hareas hunlocks h => exact .inr ⟨_, hareas, .inr ⟨_, hunlocks, .inl h⟩⟩
    | tables hareas hunlocks hquests h =>
        have hcause := (World.ofTables_eq_error_iff hareas.distinct hunlocks.distinct
          hquests.distinct).mpr h
        exact .inr ⟨_, hareas, .inr ⟨_, hunlocks, .inr ⟨_, hquests, _, hcause.1, rfl⟩⟩⟩

end Reading

end Walkthrough

import Walkthrough.Proofs.Files.Shelf

/-!
# Which fault of a folder is told

A call for a world fails only if it has to read the files of its folder, and then with the fault of
the folder that is told first. Which fault of the tables that is, the order of the tables decides.

* `Shelf.result_load_eq_error_iff` — when a call fails, and with what;
* `first_fault_is_told` — which fault that is, of the tables and of a folder.
-/

namespace Walkthrough

open Walkthrough.Text

/-- A call fails exactly if it has to read the files, and then with what is told first. -/
theorem Shelf.result_load_eq_error_iff {shelf : Shelf} {nesting : Nat} {disk : Disk} {folder : Path}
    {fromShelf : Bool} {error : LoadError} :
    (shelf.load nesting disk folder fromShelf).result = .error error ↔
      (fromShelf = false ∨ shelf.get? folder = none) ∧ disk.FirstFault nesting folder error := by
  by_cases hreads : fromShelf = false ∨ shelf.get? folder = none
  · rw [load_eq_reload hreads, and_iff_right hreads]
    exact result_reload_eq_error_iff
  · rw [not_or, Bool.not_eq_false] at hreads
    obtain ⟨rfl, hsome⟩ := hreads
    obtain ⟨loaded, hloaded⟩ := Option.ne_none_iff_exists'.mp hsome
    simp [load_of_get? hloaded, hloaded]

/-- Of all that may be wrong with three tables at once, the one thing that is told is decided by the
order of the tables: the areas, the unlocks, the quests, and the keys of the areas last. For a
folder the same order holds, but all its files come first: a call fails exactly if it has to read
the files, and with the first fault of the folder. -/
theorem first_fault_is_told {areas unlocks quests : Json} (hareas : areas.Distinct)
    (hunlocks : unlocks.Distinct) (hquests : quests.Distinct) :
    (∀ error message,
      World.ofTables areas unlocks quests = .error error ∧ error.message = message ↔
        World.FirstFault areas unlocks quests error message) ∧
    ∀ (shelf : Shelf) (nesting : Nat) (disk : Disk) (folder : Path) (fromShelf : Bool)
        (error : LoadError),
      (shelf.load nesting disk folder fromShelf).result = .error error ↔
        (fromShelf = false ∨ shelf.get? folder = none) ∧ disk.FirstFault nesting folder error := by
  refine ⟨fun _ _ => World.ofTables_eq_error_iff hareas hunlocks hquests, ?_⟩
  intro shelf nesting disk folder fromShelf error
  exact Shelf.result_load_eq_error_iff

namespace Reef

/-- An area under a key that is not its id. -/
def areas : Json :=
  .record [("shoal", .record [("id", .text "reef"), ("act", .int 1), ("name", .text "Reef")])]

/-- A kill that unlocks a number. -/
def unlocks : Json := .record [("crab", .int 5)]

/-- A folder whose areas are a list, and whose quests are a bracket that stays open. -/
def disk : Disk := fun path =>
  if path = ⟨0, ["reef", "areas.json"]⟩ then .file [0x5B, 0x5D]
  else if path = ⟨0, ["reef", "quests.json"]⟩ then .file [0x7B]
  else .absent

theorem firstFault : disk.FirstFault Host.standard.nesting ⟨0, ["reef"]⟩
    (.notJson ⟨0, ["reef", "quests.json"]⟩) := by
  have hareas : disk.Holds Host.standard.nesting ⟨0, ["reef", "areas.json"]⟩ (.array []) :=
    ⟨[0x5B, 0x5D], ['[', ']'], rfl, rfl, by with_unfolding_all rfl⟩
  have hunlocks : disk.MayHold Host.standard.nesting ⟨0, ["reef", "kill_waypoints.json"]⟩
      (.object []) :=
    .inl ⟨rfl, rfl⟩
  have htext : Utf8.decode [0x7B] = .ok ['{'] := rfl
  have hread : Json.read Host.standard.nesting (unifyNewlines ['{']) = .error .malformed := by
    with_unfolding_all rfl
  exact .quests hareas hunlocks (.notJson rfl htext hread)

end Reef

/-- The unlocks are told rather than the key, and the file rather than the tables. -/
theorem the_reef_has_its_first_fault_told :
    Reef.areas.Distinct ∧ Reef.unlocks.Distinct ∧ Json.null.Distinct ∧
      World.FirstFault Reef.areas Reef.unlocks .null
        (.shape .unlocks ⟨[.key (Letters.ofString "crab")], .wrongKind (.int 5) .array⟩)
        "Invalid kill waypoints at crab: 5 is not of type 'array'" ∧
      (Shelf.empty.load Host.standard.nesting Reef.disk ⟨0, ["reef"]⟩ true).result =
        .error (.notJson ⟨0, ["reef", "quests.json"]⟩) := by
  have hareas : Reef.areas.Distinct := by
    simp [Reef.areas, Json.record, Json.text, Table.keys]
  have hunlocks : Reef.unlocks.Distinct := by
    simp [Reef.unlocks, Json.record, Table.keys]
  have htold := first_fault_is_told hareas hunlocks .null
  refine ⟨hareas, hunlocks, .null, (htold.1 _ _).mp ⟨?_, ?_⟩, ?_⟩
  · with_unfolding_all rfl
  · with_unfolding_all rfl
  · exact (htold.2 _ _ _ _ _ _).mpr ⟨.inr rfl, Reef.firstFault⟩

end Walkthrough

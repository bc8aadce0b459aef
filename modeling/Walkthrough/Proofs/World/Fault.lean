import Walkthrough.Proofs.World.Format

/-!
# Which fault of the tables is told

Several things may be wrong with the tables of a world at once, but only one of them is told. It is
one of the first table that is not what it should be; and only where all three are, it is the first
area that does not stand under its id.

* `World.IsAreas`, `World.IsUnlocks`, `World.IsQuests` — whether a value is such a table;
* `World.FirstFault` — the fault that is told, and its words;
* `World.ofTables_eq_error_iff` — it is the one that is found.
-/

namespace Walkthrough

open Walkthrough.Text (Letters)

variable {areas unlocks quests : Json}

namespace World

/-- Whether a value is a table of areas. -/
def IsAreas (json : Json) : Prop := ∃ table, json.IsTableOf Area.Described table

/-- Whether a value is a table of unlocks, or nothing. -/
def IsUnlocks (json : Json) : Prop :=
  ∃ table, json.IsTableIfAny (Json.IsListOf Json.IsName) table

/-- Whether a value is a table of quests, or nothing. -/
def IsQuests (json : Json) : Prop := ∃ table, json.IsTableIfAny Quest.Described table

/-- The fault of three tables that is told, and its words. Which one it is of the faults of a single
table is for the violations to settle. -/
inductive FirstFault (areas unlocks quests : Json) : TableError → String → Prop
  | areas {violation : Violation} (hareas : ¬IsAreas areas)
      (h : Violation.reported? (areasShape areas) = some violation) :
      FirstFault areas unlocks quests (.shape .areas violation)
        ("Invalid areas at " ++ violation.place ++ ": " ++ violation.fault.message)
  | unlocks {violation : Violation} (hareas : IsAreas areas) (hunlocks : ¬IsUnlocks unlocks)
      (h : Violation.reported? (unlocksShape unlocks.orEmpty) = some violation) :
      FirstFault areas unlocks quests (.shape .unlocks violation)
        ("Invalid kill waypoints at " ++ violation.place ++ ": " ++ violation.fault.message)
  | quests {violation : Violation} (hareas : IsAreas areas) (hunlocks : IsUnlocks unlocks)
      (hquests : ¬IsQuests quests)
      (h : Violation.reported? (questsShape quests.orEmpty) = some violation) :
      FirstFault areas unlocks quests (.shape .quests violation)
        ("Invalid quests at " ++ violation.place ++ ": " ++ violation.fault.message)
  | key {before after : Table Letters Area} {key : Letters} {area : Area}
      (hareas : areas.IsTableOf Area.Described (before ++ (key, area) :: after))
      (hunlocks : IsUnlocks unlocks) (hquests : IsQuests quests)
      (hbefore : ∀ entry ∈ before, entry.1 = entry.2.id) (hkey : key ≠ area.id) :
      FirstFault areas unlocks quests (.keyMismatch key area.id)
        ("Area key '" ++ key.shown ++ "' does not match its id '" ++ area.id.shown ++ "'")

/-! ## What is checked -/

/-- Where a value describes at most what is read from it, it describes something if it will do. -/
theorem exists_means_iff {α : Type} {means : α → Prop} {good : Prop} {read : α}
    (h : ∀ value, means value ↔ good ∧ read = value) : (∃ value, means value) ↔ good := by
  simp only [h, exists_and_left, exists_eq', and_true]

theorem isAreas_iff (h : areas.Distinct) : IsAreas areas ↔ areasShape areas = [] :=
  exists_means_iff (agrees_area.dict areas h)

theorem isUnlocks_iff (h : unlocks.Distinct) :
    IsUnlocks unlocks ↔ unlocksShape unlocks.orEmpty = [] :=
  exists_means_iff (agrees_names.orEmpty h)

theorem isQuests_iff (h : quests.Distinct) :
    IsQuests quests ↔ questsShape quests.orEmpty = [] :=
  exists_means_iff (agrees_quest.orEmpty h)

end World

/-- What is found at fault with three tables is just what is told first. -/
theorem World.ofTables_eq_error_iff (hareas : areas.Distinct) (hunlocks : unlocks.Distinct)
    (hquests : quests.Distinct) {error : TableError} {message : String} :
    World.ofTables areas unlocks quests = .error error ∧ error.message = message ↔
      World.FirstFault areas unlocks quests error message := by
  have hareaCheck : IsAreas areas ↔ checkShape .areas areasShape areas = .ok () :=
    (isAreas_iff hareas).trans checkShape_eq_ok_iff.symm
  have hunlockCheck :
      IsUnlocks unlocks ↔ checkShape .unlocks unlocksShape unlocks.orEmpty = .ok () :=
    (isUnlocks_iff hunlocks).trans checkShape_eq_ok_iff.symm
  have hquestCheck : IsQuests quests ↔ checkShape .quests questsShape quests.orEmpty = .ok () :=
    (isQuests_iff hquests).trans checkShape_eq_ok_iff.symm
  have hareaTable (table : Table Letters Area) : areas.IsTableOf Area.Described table ↔
      checkShape .areas areasShape areas = .ok () ∧ areas.entries Area.ofJson = table :=
    (agrees_area.dict areas hareas table).trans (and_congr_left' checkShape_eq_ok_iff.symm)
  unfold World.ofTables
  simp only [bind_eq_error_iff, checkShape_eq_error_iff, checkKeys_eq_error_iff]
  constructor
  · rintro ⟨⟨violation, h, rfl⟩ | ⟨_, hisAreas, ⟨violation, h, rfl⟩ | ⟨_, hisUnlocks,
      ⟨violation, h, rfl⟩ | ⟨_, hisQuests, ⟨before, key, area, after, htable, hbefore, hkey, rfl⟩ |
        ⟨_, _, hworld⟩⟩⟩⟩, rfl⟩
    · exact .areas (mt (isAreas_iff hareas).mp (Violation.ne_nil_of_reported? h)) h
    · exact .unlocks (hareaCheck.mpr hisAreas)
        (mt (isUnlocks_iff hunlocks).mp (Violation.ne_nil_of_reported? h)) h
    · exact .quests (hareaCheck.mpr hisAreas) (hunlockCheck.mpr hisUnlocks)
        (mt (isQuests_iff hquests).mp (Violation.ne_nil_of_reported? h)) h
    · exact .key ((hareaTable _).mpr ⟨hisAreas, htable⟩) (hunlockCheck.mpr hisUnlocks)
        (hquestCheck.mpr hisQuests) hbefore hkey
    · cases hworld
  · intro h
    cases h with
    | areas _ h => exact ⟨.inl ⟨_, h, rfl⟩, rfl⟩
    | unlocks hisAreas _ h => exact ⟨.inr ⟨(), hareaCheck.mp hisAreas, .inl ⟨_, h, rfl⟩⟩, rfl⟩
    | quests hisAreas hisUnlocks _ h =>
        exact ⟨.inr ⟨(), hareaCheck.mp hisAreas, .inr ⟨(), hunlockCheck.mp hisUnlocks, .inl
          ⟨_, h, rfl⟩⟩⟩, rfl⟩
    | key hisTable hisUnlocks hisQuests hbefore hkey =>
        obtain ⟨hisAreas, htable⟩ := (hareaTable _).mp hisTable
        exact ⟨.inr ⟨(), hisAreas, .inr ⟨(), hunlockCheck.mp hisUnlocks, .inr
          ⟨(), hquestCheck.mp hisQuests, .inl ⟨_, _, _, _, htable, hbefore, hkey, rfl⟩⟩⟩⟩, rfl⟩

end Walkthrough

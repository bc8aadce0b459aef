import Walkthrough.Proofs.Files.Folder
import Walkthrough.Proofs.World.Told

/-!
# What is shown of tables

Messages show acts, and values that a table should not have. A whole number in them can only be
shown if it is short, and it always is: it was read from a table, and longer ones are an error of
reading.

* `Fault.Sound`, `Act.IsShort` — whether what is shown of a fault or of an act can be shown;
* `Shape.Faithful` — whether a shape only shows what a value holds, with one lemma for each way of
  building shapes;
* `sound_of_loadWorld`, `sound_of_loadBuild` — the fault with which loading fails can be shown;
* `isShort_of_loadWorld` — the acts of a world that was loaded can be shown.
-/

namespace Walkthrough

open Walkthrough.Text (Letters)

/-! ## Faults -/

/-- Whether the value that a fault shows, if it shows one, is sound. -/
def Fault.Sound : Fault → Prop
  | .wrongKind found _ => found.Sound
  | .belowOne found => found.Sound
  | _ => True

namespace Shape

/-- Whether a shape finds only sound faults with sound values. -/
def Faithful (shape : Shape) : Prop :=
  ∀ json : Json, json.Sound → ∀ violation ∈ shape json, violation.fault.Sound

variable {item value : Shape} {json : Json} {step : PathStep} {kind : Kind}

theorem sound_wrongKind (h : json.Sound) :
    ∀ violation ∈ wrongKind json kind, violation.fault.Sound :=
  List.forall_mem_singleton.mpr h

/-- Where a violation is found does not matter to what is shown of it. -/
theorem sound_under {violations : List Violation}
    (h : ∀ violation ∈ violations, violation.fault.Sound) :
    ∀ violation ∈ violations.map (Violation.under step), violation.fault.Sound :=
  List.forall_mem_map.mpr h

theorem faithful_text : Faithful text := by
  intro json hjson
  cases json with
  | string => exact List.forall_mem_nil _
  | _ => exact sound_wrongKind hjson

theorem faithful_name : Faithful name := by
  intro json hjson
  cases json with
  | string text =>
      rw [name]
      split
      · exact List.forall_mem_singleton.mpr trivial
      · exact List.forall_mem_nil _
  | _ => exact sound_wrongKind hjson

theorem faithful_count : Faithful count := by
  intro json hjson
  cases json with
  | int n =>
      rw [count]
      split
      · exact List.forall_mem_singleton.mpr hjson
      · exact List.forall_mem_nil _
  | float x =>
      refine List.forall_mem_append.mpr ⟨?_, ?_⟩
      · split
        · exact sound_wrongKind hjson
        · exact List.forall_mem_nil _
      · split
        · exact List.forall_mem_singleton.mpr hjson
        · exact List.forall_mem_nil _
  | _ => exact sound_wrongKind hjson

theorem faithful_flag : Faithful flag := by
  intro json hjson
  cases json with
  | bool => exact List.forall_mem_nil _
  | _ => exact sound_wrongKind hjson

theorem faithful_list (h : Faithful item) : Faithful (list item) := by
  intro json hjson
  cases json with
  | array items =>
      refine List.forall_mem_flatMap.mpr fun entry hentry => sound_under ?_
      exact h entry.1 (Json.sound_array_iff.mp hjson _ (List.fst_mem_of_mem_zipIdx hentry))
  | _ => exact sound_wrongKind hjson

theorem faithful_dict (h : Faithful value) : Faithful (dict value) := by
  intro json hjson
  cases json with
  | object members =>
      refine List.forall_mem_flatMap.mpr fun member hmember => sound_under ?_
      exact h member.2 ((Json.sound_object_iff.mp hjson).2 member hmember)
  | _ => exact sound_wrongKind hjson

/-- A record shows only what its fields show: the keys of other members are texts. -/
theorem faithful_record {fields : List Field} (h : ∀ field ∈ fields, Faithful field.shape) :
    Faithful (record fields) := by
  intro json hjson
  cases json with
  | object members =>
      refine List.forall_mem_append.mpr ⟨List.forall_mem_append.mpr ⟨?_, ?_⟩, ?_⟩
      · exact List.forall_mem_map.mpr fun _ _ => trivial
      · refine List.forall_mem_flatMap.mpr fun field hfield => ?_
        unfold Field.violations
        split
        · exact List.forall_mem_nil _
        next value hvalue => exact sound_under (h field hfield value (hjson.of_get? hvalue))
      · split
        · exact List.forall_mem_nil _
        · exact List.forall_mem_singleton.mpr trivial
  | _ => exact sound_wrongKind hjson

theorem faithful_names : Faithful names := faithful_list faithful_name

end Shape

open Shape

theorem Offer.faithful_shape : Faithful Offer.shape := by
  have hgems : Faithful Offer.gemsShape := faithful_dict (faithful_list faithful_text)
  refine faithful_record ?_
  simp only [List.forall_mem_cons]
  exact ⟨faithful_text, hgems, hgems, nofun⟩

theorem Area.faithful_shape : Faithful Area.shape := by
  refine faithful_record ?_
  simp only [List.forall_mem_cons]
  exact ⟨faithful_name, faithful_count, faithful_text, faithful_names, faithful_flag, faithful_flag,
    faithful_list faithful_text, nofun⟩

theorem Quest.faithful_shape : Faithful Quest.shape := by
  refine faithful_record ?_
  simp only [List.forall_mem_cons]
  exact ⟨faithful_name, faithful_text, faithful_count, faithful_list Offer.faithful_shape, nofun⟩

theorem Build.faithful_shape : Faithful Build.shape := by
  have hgem : Faithful (record [⟨"id", true, .name⟩, ⟨"note", false, .text⟩]) := by
    refine faithful_record ?_
    simp only [List.forall_mem_cons]
    exact ⟨faithful_name, faithful_text, nofun⟩
  refine faithful_record ?_
  simp only [List.forall_mem_cons]
  exact ⟨faithful_name, faithful_list hgem, nofun⟩

/-! ## What loading fails with -/

section Loading

variable {disk : Disk} {nesting : Nat} {path folder : Path} {json : Json} {shape : Shape}
variable {table : TableKind} {violation : Violation}

theorem Shape.Faithful.sound_of_reported? (h : Faithful shape) (hjson : json.Sound)
    (hreported : Violation.reported? (shape json) = some violation) : violation.fault.Sound :=
  h json hjson violation (Violation.reported?_eq_some_iff.mp hreported).mem

theorem Json.Sound.orEmpty (h : json.Sound) : json.orEmpty.Sound := by
  rw [Json.orEmpty]
  split
  · exact .object List.nodup_nil nofun
  · exact h

/-- The value that is complained about when a world fails to load can be shown. -/
theorem sound_of_loadWorld
    (h : loadWorld nesting disk folder = .error (.table (.shape table violation))) :
    violation.fault.Sound := by
  cases loadWorld_eq_error_iff.mp h with
  | areas h => cases h with | obstructed h => cases h
  | unlocks _ h => cases h with | obstructed h => cases h
  | quests _ _ h => cases h with | obstructed h => cases h
  | tables hareas hunlocks hquests h =>
      cases h with
      | areas _ h => exact (faithful_dict Area.faithful_shape).sound_of_reported? hareas.sound h
      | unlocks _ _ h =>
          exact (faithful_dict faithful_names).sound_of_reported? hunlocks.sound.orEmpty h
      | quests _ _ _ h =>
          exact (faithful_dict Quest.faithful_shape).sound_of_reported? hquests.sound.orEmpty h

/-- The value that is complained about when a build fails to load can be shown. -/
theorem sound_of_loadBuild
    (h : loadBuild nesting disk path = .error (.table (.shape table violation))) :
    violation.fault.Sound := by
  unfold loadBuild at h
  rcases bind_eq_error_iff.mp h with hread | ⟨json, hread, hbuild⟩
  · rcases readRequired_eq_error_iff.mp hread with ⟨-, hmissing⟩ | hspoils
    · cases hmissing
    · cases hspoils with | obstructed h => cases h
  · obtain ⟨cause, hcause, heq⟩ := liftTable_eq_error_iff.mp hbuild
    cases heq
    rw [Build.ofJson] at hcause
    rcases bind_eq_error_iff.mp hcause with hcheck | ⟨_, -, hnone⟩
    · obtain ⟨other, hreported, heq⟩ := checkShape_eq_error_iff.mp hcheck
      cases heq
      exact Build.faithful_shape.sound_of_reported? (readRequired_eq_ok_iff.mp hread).sound
        hreported
    · cases hnone

end Loading

/-! ## Acts -/

/-- Whether the number of an act can be shown: a float always can. -/
def Act.IsShort (act : Act) : Prop := act.isFloat = false → Number.IsShort act.value.natAbs

theorem Act.isShort_ofJson {json : Json} (h : json.Sound) : (Act.ofJson json).IsShort := by
  have hzero : Number.IsShort (0 : Int).natAbs := Number.isShort_of_lt (by decide)
  cases json with
  | int value => exact fun _ => h.isShort
  | float x => exact nofun
  | _ => exact fun _ => hzero

theorem Json.Sound.valueAt {json : Json} (h : json.Sound) (key : String) :
    (json.valueAt key).Sound := by
  rw [Json.valueAt]
  cases hmember : json.member? key with
  | none => exact .null
  | some value =>
      cases json with
      | object members => exact h.of_get? hmember
      | _ => cases hmember

/-- The values in a table that is an object are those that were read from its members. -/
theorem Json.Sound.exists_of_mem_entries {α : Type} {ofJson : Json → α} {json : Json} {value : α}
    (h : json.Sound) (hvalue : value ∈ (json.entries ofJson).values) :
    ∃ member : Json, member.Sound ∧ ofJson member = value := by
  obtain ⟨entry, hentry, rfl⟩ := List.mem_map.mp hvalue
  obtain ⟨member, hmember, rfl⟩ := List.mem_map.mp (Table.mem_of_mem_ofEntries hentry)
  cases json with
  | object members => exact ⟨member.2, (Json.sound_object_iff.mp h).2 member hmember, rfl⟩
  | _ => cases hmember

/-- The acts of a world that was loaded can be shown. -/
theorem isShort_of_loadWorld {disk : Disk} {nesting : Nat} {folder : Path} {world : World}
    (h : loadWorld nesting disk folder = .ok world) :
    (∀ area ∈ world.areas.values, area.act.IsShort) ∧
      ∀ quest ∈ world.quests.values, quest.act.IsShort := by
  obtain ⟨hareas, hunlocks, hquests, hdescribed⟩ := loadWorld_eq_ok_iff.mp h
  obtain ⟨-, -, -, -, rfl⟩ :=
    (World.described_iff hareas.distinct hunlocks.distinct hquests.distinct).mp hdescribed
  constructor
  · intro area harea
    obtain ⟨member, hmember, rfl⟩ := hareas.sound.exists_of_mem_entries harea
    exact Act.isShort_ofJson (hmember.valueAt "act")
  · intro quest hquest
    obtain ⟨member, hmember, rfl⟩ := hquests.sound.orEmpty.exists_of_mem_entries hquest
    exact Act.isShort_ofJson (hmember.valueAt "act")

end Walkthrough

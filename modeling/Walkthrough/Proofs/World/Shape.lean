import Walkthrough.World.Tables

/-!
# Shapes without violations

A shape finds nothing wrong with a value exactly if the value is made as the shape says; one lemma
for each way of building shapes, and for each check that a load makes one lemma on when it passes
and one on when it fails.

* `Shape.record_eq_nil_iff` and its siblings — the values that a shape accepts;
* `checkShape_eq_error_iff`, `checkKeys_eq_error_iff` — what the checks fail with;
* `World.ofTables_eq_ok_iff` — which tables make a world, and which world.
-/

namespace Walkthrough

open Walkthrough.Text (Letters)

namespace Shape

theorem wrongKind_ne_nil (found : Json) (wanted : Kind) : wrongKind found wanted ≠ [] :=
  List.cons_ne_nil _ _

theorem name_eq_nil_iff {json : Json} :
    name json = [] ↔ ∃ text, json = .string text ∧ text ≠ [] := by
  constructor
  · intro h
    cases json with
    | string text =>
        refine ⟨text, rfl, ?_⟩
        intro hempty
        rw [hempty] at h
        cases h
    | _ => exact absurd h (wrongKind_ne_nil _ _)
  · rintro ⟨text, rfl, hne⟩
    have hempty : text.isEmpty = false := by simpa using hne
    rw [name, hempty]
    rfl

theorem text_eq_nil_iff {json : Json} : text json = [] ↔ ∃ text, json = .string text := by
  cases json <;> simp [text, wrongKind]

theorem flag_eq_nil_iff {json : Json} : flag json = [] ↔ ∃ value, json = .bool value := by
  cases json <;> simp [flag, wrongKind]

theorem list_eq_nil_iff {item : Shape} {json : Json} :
    list item json = [] ↔ ∃ items, json = .array items ∧ ∀ value ∈ items, item value = [] := by
  cases json with
  | array items =>
      simp only [list, List.flatMap_eq_nil_iff, List.map_eq_nil_iff]
      rw [← List.forall_mem_map (P := fun value => item value = []), List.zipIdx_map_fst]
      simp
  | _ => simp [list, wrongKind]

theorem dict_eq_nil_iff {value : Shape} {json : Json} :
    dict value json = [] ↔
      ∃ members, json = .object members ∧ ∀ entry ∈ members, value entry.2 = [] := by
  constructor
  · intro h
    cases json with
    | object members =>
        refine ⟨members, rfl, ?_⟩
        intro entry hentry
        exact List.map_eq_nil_iff.mp (List.flatMap_eq_nil_iff.mp h entry hentry)
    | _ => exact absurd h (wrongKind_ne_nil _ _)
  · rintro ⟨members, rfl, hall⟩
    rw [dict, List.flatMap_eq_nil_iff]
    intro entry hentry
    exact List.map_eq_nil_iff.mpr (hall entry hentry)

theorem violations_eq_nil_iff {field : Field} {members : Table Letters Json} :
    field.violations members = [] ↔
      ∀ json, members.get? field.letters = some json → field.shape json = [] := by
  unfold Field.violations
  cases members.get? field.letters with
  | none => simp
  | some json => simp

/-- No key is a stranger if every key is the key of a field. -/
theorem strangers_eq_nil_iff {fields : List Field} {members : Table Letters Json} :
    strangers fields members = [] ↔
      ∀ key ∈ Table.keys members, ∃ field ∈ fields, field.letters = key := by
  rw [strangers, ← List.length_eq_zero_iff, List.length_mergeSort, List.length_eq_zero_iff,
    List.filter_eq_nil_iff]
  simp

theorem record_eq_nil_iff {fields : List Field} {json : Json} :
    record fields json = [] ↔
      ∃ members, json = .object members ∧
        (∀ field ∈ fields, field.required = true → Table.has field.letters members = true) ∧
        (∀ field ∈ fields, ∀ value, Table.get? field.letters members = some value →
          field.shape value = []) ∧
        strangers fields members = [] := by
  constructor
  · intro h
    cases json with
    | object members =>
        obtain ⟨hfirst, hextra⟩ := List.append_eq_nil_iff.mp h
        obtain ⟨hmissing, hfields⟩ := List.append_eq_nil_iff.mp hfirst
        refine ⟨members, rfl, ?_, ?_, ?_⟩
        · intro field hfield hrequired
          have hnone := List.filter_eq_nil_iff.mp (List.map_eq_nil_iff.mp hmissing) field hfield
          simpa [hrequired] using hnone
        · intro field hfield
          exact violations_eq_nil_iff.mp (List.flatMap_eq_nil_iff.mp hfields field hfield)
        · by_cases hempty : (strangers fields members).isEmpty = true
          · exact List.isEmpty_iff.mp hempty
          · rw [if_neg hempty] at hextra
            cases hextra
    | _ => exact absurd h (wrongKind_ne_nil _ _)
  · rintro ⟨members, rfl, hrequired, hshape, hextra⟩
    have hmissing : fields.filter
        (fun field => field.required && !Table.has field.letters members) = [] := by
      refine List.filter_eq_nil_iff.mpr fun field hfield => ?_
      cases hr : field.required with
      | false => simp
      | true => simp [hrequired field hfield hr]
    have hfields : fields.flatMap (·.violations members) = [] :=
      List.flatMap_eq_nil_iff.mpr fun field hfield =>
        violations_eq_nil_iff.mpr (hshape field hfield)
    simp [record, hmissing, hfields, hextra]

end Shape

/-! ## The checks of a load -/

/-- Two checks in a row succeed if each of them does. -/
theorem bind_eq_ok_iff {ε α β : Type} {x : Except ε α} {f : α → Except ε β} {b : β} :
    x >>= f = .ok b ↔ ∃ a, x = .ok a ∧ f a = .ok b := by
  cases x <;> simp [bind, Except.bind]

/-- Two checks in a row fail if the first one does, or if it succeeds and the second one fails. -/
theorem bind_eq_error_iff {ε α β : Type} {x : Except ε α} {f : α → Except ε β} {e : ε} :
    x >>= f = .error e ↔ x = .error e ∨ ∃ a, x = .ok a ∧ f a = .error e := by
  cases x <;> simp [bind, Except.bind]

theorem Violation.ne_nil_of_reported? {vs : List Violation} {violation : Violation}
    (h : reported? vs = some violation) : vs ≠ [] := by
  rintro rfl
  cases h

theorem checkShape_eq_ok_iff {table : TableKind} {shape : Shape} {json : Json} :
    checkShape table shape json = .ok () ↔ shape json = [] := by
  unfold checkShape
  cases hreport : Violation.reported? (shape json) with
  | none => simp [Violation.reported?_eq_none_iff.mp hreport]
  | some violation => simp [Violation.ne_nil_of_reported? hreport]

theorem checkShape_eq_error_iff {table : TableKind} {shape : Shape} {json : Json}
    {error : TableError} :
    checkShape table shape json = .error error ↔
      ∃ violation, Violation.reported? (shape json) = some violation ∧
        error = .shape table violation := by
  unfold checkShape
  cases Violation.reported? (shape json) with
  | none => simp
  | some violation => simp [eq_comm]

theorem checkKeys_eq_ok_iff {table : Table Letters Area} :
    checkKeys table = .ok () ↔ ∀ entry ∈ table, entry.1 = entry.2.id := by
  induction table with
  | nil => simp [checkKeys]
  | cons entry rest ih =>
      obtain ⟨key, area⟩ := entry
      rw [checkKeys, List.forall_mem_cons]
      by_cases hkey : key = area.id
      · rw [if_pos hkey, ih]
        simp [hkey]
      · rw [if_neg hkey]
        simp [hkey]

/-- The check of the keys ends at the first area that does not stand under its id. -/
theorem checkKeys_eq_error_iff {table : Table Letters Area} {error : TableError} :
    checkKeys table = .error error ↔
      ∃ before key area after, table = before ++ (key, area) :: after ∧
        (∀ entry ∈ before, entry.1 = entry.2.id) ∧ key ≠ area.id ∧
        error = .keyMismatch key area.id := by
  induction table with
  | nil => simp [checkKeys]
  | cons entry rest ih =>
      obtain ⟨key, area⟩ := entry
      rw [checkKeys]
      by_cases hkey : key = area.id
      · rw [if_pos hkey, ih]
        constructor
        · rintro ⟨before, other, wrong, after, rfl, hbefore, hwrong⟩
          exact ⟨(key, area) :: before, other, wrong, after, rfl,
            List.forall_mem_cons.mpr ⟨hkey, hbefore⟩, hwrong⟩
        · rintro ⟨before, other, wrong, after, htable, hbefore, hne, herror⟩
          cases before with
          | nil =>
              cases htable
              exact absurd hkey hne
          | cons first before =>
              cases htable
              exact ⟨before, other, wrong, after, rfl, (List.forall_mem_cons.mp hbefore).2, hne,
                herror⟩
      · rw [if_neg hkey]
        constructor
        · rintro ⟨⟩
          exact ⟨[], key, area, rest, rfl, nofun, hkey, rfl⟩
        · rintro ⟨before, other, wrong, after, htable, hbefore, hne, rfl⟩
          cases before with
          | nil =>
              cases htable
              rfl
          | cons first before =>
              cases htable
              exact absurd (hbefore _ List.mem_cons_self) hkey

/-- Three tables make a world exactly if each has its shape and every area stands under its id. -/
theorem World.ofTables_eq_ok_iff {areas unlocks quests : Json} {world : World} :
    World.ofTables areas unlocks quests = .ok world ↔
      World.areasShape areas = [] ∧ World.unlocksShape unlocks.orEmpty = [] ∧
        World.questsShape quests.orEmpty = [] ∧
        (∀ entry ∈ areas.entries Area.ofJson, entry.1 = entry.2.id) ∧
        world = {
          areas := areas.entries Area.ofJson
          unlocks := unlocks.orEmpty.entries fun ids => ids.items.map Json.asText
          quests := quests.orEmpty.entries Quest.ofJson } := by
  unfold World.ofTables
  simp only [bind_eq_ok_iff]
  constructor
  · rintro ⟨_, hareas, _, hunlocks, _, hquests, _, hkeys, hworld⟩
    exact ⟨checkShape_eq_ok_iff.mp hareas, checkShape_eq_ok_iff.mp hunlocks,
      checkShape_eq_ok_iff.mp hquests, checkKeys_eq_ok_iff.mp hkeys, (Except.ok.inj hworld).symm⟩
  · rintro ⟨hareas, hunlocks, hquests, hkeys, rfl⟩
    exact ⟨(), checkShape_eq_ok_iff.mpr hareas, (), checkShape_eq_ok_iff.mpr hunlocks,
      (), checkShape_eq_ok_iff.mpr hquests, (), checkKeys_eq_ok_iff.mpr hkeys, rfl⟩

end Walkthrough

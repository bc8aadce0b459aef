import Mathlib.Data.List.Basic
import Mathlib.Data.List.Nodup
import Mathlib.Logic.ExistsUnique
import Walkthrough.Proofs.World.Review

/-!
# What a review reports

A review looks at every place of the tables where something may be wrong. Here it is said without
the review what is wrong at a place, and the issues of a review are just that: one for each place at
which something is wrong, in the order of the places. The town index is built on its own, and still
the two agree about the acts that have no town.

* `World.Defect` — what is wrong at a place of the tables;
* `World.Reports` — the issues of places in a row, and `World.ListsActs`, the row of the acts;
* `World.towns_of?_eq` — the town index, by the towns of an act;
* `review_is_exact` — a review reports the defects of a world, and the town index agrees with it.
-/

namespace Walkthrough

open Walkthrough.Text (Letters)

namespace World

variable {world : World} {act : Act} {area : Area} {town id : Letters}

/-! ## The towns of an act -/

/-- The areas that are towns of an act, in the order of the table. -/
def townsOf (world : World) (act : Act) : List Area :=
  world.areas.values.filter fun area => area.act.same act && area.isTown

theorem mem_townsOf :
    area ∈ world.townsOf act ↔
      area ∈ world.areas.values ∧ area.isTown = true ∧ area.act.same act = true := by
  rw [townsOf, List.mem_filter, Bool.and_eq_true]
  exact and_congr_right fun _ => and_comm

theorem townCount_eq_length (act : Act) : world.townCount act = (world.townsOf act).length := by
  rw [townCount, List.countP_eq_length_filter, townAreas, List.filter_filter, townsOf]

/-- An act has one town exactly if it has one, counted by areas. -/
theorem townCount_eq_one_iff (hloaded : world.Loaded) :
    world.townCount act = 1 ↔
      ∃! town, town ∈ world.areas.values ∧ town.isTown = true ∧ town.act.same act = true := by
  have hnodup : (world.townsOf act).Nodup :=
    (List.Nodup.of_map _ hloaded.nodup_ids).filter _
  simp only [← mem_townsOf, townCount_eq_length]
  constructor
  · intro hone
    obtain ⟨town, htowns⟩ := List.length_eq_one_iff.mp hone
    rw [htowns]
    exact ⟨town, List.mem_singleton_self town, fun other hother => List.mem_singleton.mp hother⟩
  · rintro ⟨town, htown, hunique⟩
    cases htowns : world.townsOf act with
    | nil => rw [htowns] at htown; cases htown
    | cons first rest =>
        cases rest with
        | nil => rfl
        | cons second rest =>
            rw [htowns] at hnodup hunique
            have hfirst := hunique first List.mem_cons_self
            have hsecond := hunique second (List.mem_cons_of_mem _ List.mem_cons_self)
            rw [hfirst, hsecond] at hnodup
            exact absurd List.mem_cons_self (List.nodup_cons.mp hnodup).1

/-- Of several towns of an act the index has the last one. -/
theorem towns_of?_eq (act : Act) :
    world.towns.of? act = (world.townsOf act).getLast?.map Area.id := by
  have general (areas : List Area) (towns : Towns) :
      Towns.of? act (areas.foldl (fun towns area => towns.put area.act area.id) towns) =
        ((areas.filter (·.act.same act)).getLast?.map Area.id).or (towns.of? act) := by
    induction areas generalizing towns with
    | nil => rfl
    | cons area areas ih =>
        rw [List.foldl_cons, ih, Towns.of?_put, List.filter_cons]
        by_cases hsame : area.act.same act = true
        · rw [if_pos hsame, if_pos hsame, List.getLast?_cons]
          cases (areas.filter (·.act.same act)).getLast? <;> rfl
        · rw [if_neg hsame, if_neg hsame]
  rw [towns, general, townAreas, List.filter_filter, townsOf]
  exact Option.or_none

theorem towns_of?_eq_none_iff : world.towns.of? act = none ↔ world.townsOf act = [] := by
  rw [towns_of?_eq, Option.map_eq_none_iff, List.getLast?_eq_none_iff]

/-- Whether a town is the last one of its act in the order of the table. -/
def IsLastTown (world : World) (act : Act) (town : Letters) : Prop :=
  ∃ before area after, world.areas.values = before ++ area :: after ∧
    area.id = town ∧ area.isTown = true ∧ area.act.same act = true ∧
    ∀ other ∈ after, ¬(other.isTown = true ∧ other.act.same act = true)

theorem towns_of?_eq_some_iff : world.towns.of? act = some town ↔ world.IsLastTown act town := by
  rw [towns_of?_eq, Option.map_eq_some_iff]
  simp only [List.getLast?_eq_some_iff, townsOf, IsLastTown]
  constructor
  · rintro ⟨area, ⟨others, htowns⟩, hid⟩
    obtain ⟨before, rest, hvalues, -, hrest⟩ := List.filter_eq_append_iff.mp htowns
    obtain ⟨between, after, rfl, -, harea, hafter⟩ := List.filter_eq_cons_iff.mp hrest
    rw [Bool.and_eq_true] at harea
    refine ⟨before ++ between, area, after, by simp [hvalues], hid, harea.2, harea.1, ?_⟩
    intro other hother htown
    exact List.filter_eq_nil_iff.mp hafter other hother (by simp [htown])
  · rintro ⟨before, area, after, hvalues, hid, htown, hsame, hafter⟩
    refine ⟨area, ⟨before.filter fun area => area.act.same act && area.isTown, ?_⟩, hid⟩
    have hnone : (after.filter fun area => area.act.same act && area.isTown) = [] := by
      rw [List.filter_eq_nil_iff]
      intro other hother hboth
      rw [Bool.and_eq_true] at hboth
      exact hafter other hother hboth.symm
    rw [hvalues, List.filter_append, List.filter_cons, hsame, htown, hnone]
    rfl

/-! ## The acts that have areas -/

/-- Whether an act has areas and is written as its first area writes it. -/
def FirstWritten (world : World) (act : Act) : Prop :=
  ∃ before area after, world.areas.values = before ++ area :: after ∧ area.act = act ∧
    ∀ other ∈ before, other.act.same act = false

/-- The acts that have areas, each once and in their order. -/
structure ListsActs (world : World) (acts : List Act) : Prop where
  increasing : acts.Pairwise fun a b => a.value < b.value
  mem_iff : ∀ act, act ∈ acts ↔ world.FirstWritten act

theorem mem_distinctActs_iff {acts : List Act} :
    act ∈ distinctActs acts ↔
      ∃ before after, acts = before ++ act :: after ∧
        ∀ other ∈ before, other.same act = false := by
  induction acts with
  | nil => simp [distinctActs]
  | cons first acts ih =>
      rw [distinctActs, List.mem_cons, List.mem_filter, ih]
      constructor
      · rintro (rfl | ⟨⟨before, after, rfl, hbefore⟩, hfirst⟩)
        · exact ⟨[], acts, rfl, fun other hother => nomatch hother⟩
        · refine ⟨first :: before, after, rfl, List.forall_mem_cons.mpr ⟨?_, hbefore⟩⟩
          simpa using hfirst
      · rintro ⟨before, after, hacts, hbefore⟩
        cases before with
        | nil => exact .inl (List.cons.inj hacts).1.symm
        | cons other before =>
            obtain ⟨rfl, rfl⟩ := List.cons.inj hacts
            obtain ⟨hfirst, hbefore⟩ := List.forall_mem_cons.mp hbefore
            exact .inr ⟨⟨before, after, rfl, hbefore⟩, by rw [hfirst]; rfl⟩

theorem pairwise_distinctActs (acts : List Act) :
    (distinctActs acts).Pairwise fun a b => a.value ≠ b.value := by
  induction acts with
  | nil => exact .nil
  | cons first acts ih =>
      refine List.pairwise_cons.mpr ⟨?_, ih.filter _⟩
      intro other hother
      simpa [Act.same] using (List.mem_filter.mp hother).2

theorem mem_acts_iff : act ∈ world.acts ↔ world.FirstWritten act := by
  rw [acts, mem_distinctActs_iff, FirstWritten]
  constructor
  · rintro ⟨before, after, hacts, hbefore⟩
    obtain ⟨before, rest, hvalues, rfl, hrest⟩ := List.map_eq_append_iff.mp hacts
    obtain ⟨area, after, rfl, hact, -⟩ := List.map_eq_cons_iff.mp hrest
    exact ⟨before, area, after, hvalues, hact, List.forall_mem_map.mp hbefore⟩
  · rintro ⟨before, area, after, hvalues, rfl, hbefore⟩
    refine ⟨before.map Area.act, after.map Area.act, ?_, List.forall_mem_map.mpr hbefore⟩
    rw [hvalues, List.map_append, List.map_cons]

/-- The acts in the order of a review: that they are sorted and that no two are the same makes each
one less than those after it. -/
theorem listsActs_mergeSort :
    world.ListsActs (world.acts.mergeSort fun a b => a.value ≤ b.value) where
  increasing := by
    let le (a b : Act) : Bool := a.value ≤ b.value
    have hsorted : (world.acts.mergeSort le).Pairwise fun a b => le a b = true :=
      List.pairwise_mergeSort (by simp only [le, decide_eq_true_eq]; omega)
        (by simp only [le, Bool.or_eq_true, decide_eq_true_eq]; omega) world.acts
    have hdistinct : (world.acts.mergeSort le).Pairwise fun a b => a.value ≠ b.value :=
      ((List.mergeSort_perm world.acts le).pairwise_iff Ne.symm).mpr (pairwise_distinctActs _)
    refine (hsorted.and hdistinct).imp fun {a b} h => ?_
    have hle : a.value ≤ b.value := of_decide_eq_true h.1
    have hne : a.value ≠ b.value := h.2
    omega
  mem_iff := fun act => List.mem_mergeSort.trans mem_acts_iff

/-! ## What is wrong at a place -/

/-- A place in the tables of a world where something may be wrong. -/
inductive Place
  /-- A connection of an area. -/
  | road (area neighbour : Letters)
  /-- An act that has areas. -/
  | act (act : Act)
  /-- An area that a kill unlocks. -/
  | unlock (boss area : Letters)
  /-- The act of a quest. -/
  | quest (quest : Quest)

/-- What is wrong at a place. -/
inductive Defect (world : World) : Place → Issue → Prop
  | missingNeighbour {area id : Letters} (hmissing : ¬world.IsArea id) :
      Defect world (.road area id) (.missingNeighbour area id)
  | noTown {act : Act} (hnone : world.townsOf act = []) : Defect world (.act act) (.noTown act)
  | manyTowns {act : Act} (hmany : 1 < (world.townsOf act).length) :
      Defect world (.act act) (.manyTowns act (world.townsOf act).length)
  | unlocksMissing {boss id : Letters} (hmissing : ¬world.IsArea id) :
      Defect world (.unlock boss id) (.unlocksMissing boss id)
  | unlocksNoWaypoint {boss id : Letters} (harea : world.IsArea id)
      (hway : ¬world.IsWaypoint id) :
      Defect world (.unlock boss id) (.unlocksNoWaypoint boss id)
  | unknownAct {quest : Quest}
      (hnone : ¬∃ area ∈ world.areas.values, area.act.same quest.act = true) :
      Defect world (.quest quest) (.unknownAct quest.id quest.act)

/-- The issues are those of the places, in the order of the places: a place where something is wrong
has one issue, each time it stands in the row, and a place where nothing is wrong has none. -/
inductive Reports (world : World) : List Place → List Issue → Prop
  | nil : Reports world [] []
  | wrong {place : Place} {places : List Place} {issue : Issue} {issues : List Issue}
      (hdefect : world.Defect place issue) (hrest : Reports world places issues) :
      Reports world (place :: places) (issue :: issues)
  | fine {place : Place} {places : List Place} {issues : List Issue}
      (hfine : ∀ issue, ¬world.Defect place issue) (hrest : Reports world places issues) :
      Reports world (place :: places) issues

/-- The places of the tables, in order, where the acts are given. -/
def places (world : World) (acts : List Act) : List Place :=
  world.areas.values.flatMap (fun area => area.neighbours.map (.road area.id)) ++
    acts.map .act ++
    world.unlocks.flatMap (fun (boss, ids) => ids.map (.unlock boss)) ++
    world.quests.values.map .quest

/-! ## The issues of a review -/

/-- What a review finds at a place. -/
def issuesAt (world : World) : Place → List Issue
  | .road area id => if world.areas.has id then [] else [.missingNeighbour area id]
  | .act act => world.reviewAct act
  | .unlock boss id => world.reviewUnlock boss id
  | .quest quest => world.reviewQuest quest

/-- A check that finds one issue or nothing finds what is wrong if it finds nothing exactly where
nothing is wrong. -/
theorem mem_ite_iff {c : Prop} [Decidable c] {place : Place} {issue found : Issue}
    (hfine : c → ¬world.Defect place issue)
    (hwrong : ¬c → (world.Defect place issue ↔ issue = found)) :
    issue ∈ (if c then [] else [found]) ↔ world.Defect place issue := by
  by_cases hc : c
  · rw [if_pos hc]
    exact iff_of_false List.not_mem_nil (hfine hc)
  · rw [if_neg hc, List.mem_singleton]
    exact (hwrong hc).symm

theorem mem_issuesAt_road {area : Letters} {issue : Issue} :
    issue ∈ world.issuesAt (.road area id) ↔ world.Defect (.road area id) issue := by
  have hhas : world.areas.has id = true ↔ world.IsArea id := Option.isSome_iff_exists
  refine mem_ite_iff (fun hid hdefect => ?_) (fun hid => ⟨fun hdefect => ?_, ?_⟩)
  · cases hdefect with
    | missingNeighbour hmissing => exact hmissing (hhas.mp hid)
  · cases hdefect with
    | missingNeighbour => rfl
  · rintro rfl
    exact .missingNeighbour (mt hhas.mpr hid)

theorem mem_issuesAt_act {issue : Issue} :
    issue ∈ world.issuesAt (.act act) ↔ world.Defect (.act act) issue := by
  show issue ∈ world.reviewAct act ↔ _
  unfold reviewAct
  rw [townCount_eq_length]
  constructor
  · intro hissue
    split at hissue
    · rename_i hzero
      obtain rfl := List.mem_singleton.mp hissue
      exact .noTown (List.length_eq_zero_iff.mp hzero)
    · cases hissue
    · rename_i hzero hone
      obtain rfl := List.mem_singleton.mp hissue
      exact .manyTowns (Nat.lt_of_le_of_ne (Nat.pos_of_ne_zero hzero) (Ne.symm hone))
  · intro hdefect
    cases hdefect with
    | noTown hnone =>
        rw [hnone]
        exact List.mem_singleton_self _
    | manyTowns hmany =>
        split
        · omega
        · omega
        · exact List.mem_singleton_self _

theorem mem_issuesAt_unlock {boss : Letters} {issue : Issue} :
    issue ∈ world.issuesAt (.unlock boss id) ↔ world.Defect (.unlock boss id) issue := by
  show issue ∈ world.reviewUnlock boss id ↔ _
  unfold reviewUnlock
  cases harea : world.area? id with
  | none =>
      have hmissing : ¬world.IsArea id := by
        rintro ⟨area, h⟩
        rw [harea] at h
        cases h
      rw [List.mem_singleton]
      constructor
      · rintro rfl
        exact .unlocksMissing hmissing
      · intro hdefect
        cases hdefect with
        | unlocksMissing => rfl
        | unlocksNoWaypoint hexists => exact absurd hexists hmissing
  | some area =>
      have hexists : world.IsArea id := ⟨area, harea⟩
      have hway : area.hasWaypoint = true ↔ world.IsWaypoint id := by
        simp [IsWaypoint, harea]
      refine mem_ite_iff (fun hhas hdefect => ?_) (fun hhas => ⟨fun hdefect => ?_, ?_⟩)
      · cases hdefect with
        | unlocksMissing hmissing => exact hmissing hexists
        | unlocksNoWaypoint _ hnone => exact hnone (hway.mp hhas)
      · cases hdefect with
        | unlocksMissing hmissing => exact absurd hexists hmissing
        | unlocksNoWaypoint => rfl
      · rintro rfl
        exact .unlocksNoWaypoint hexists (mt hway.mpr hhas)

theorem mem_issuesAt_quest {quest : Quest} {issue : Issue} :
    issue ∈ world.issuesAt (.quest quest) ↔ world.Defect (.quest quest) issue := by
  refine mem_ite_iff (fun hany hdefect => ?_) (fun hany => ⟨fun hdefect => ?_, ?_⟩)
  · cases hdefect with
    | unknownAct hnone => exact hnone (any_acts_iff.mp hany)
  · cases hdefect with
    | unknownAct => rfl
  · rintro rfl
    exact .unknownAct (mt any_acts_iff.mpr hany)

/-- What a review finds at a place is what is wrong there. -/
theorem mem_issuesAt_iff {place : Place} {issue : Issue} :
    issue ∈ world.issuesAt place ↔ world.Defect place issue := by
  cases place with
  | road area id => exact mem_issuesAt_road
  | act act => exact mem_issuesAt_act
  | unlock boss id => exact mem_issuesAt_unlock
  | quest quest => exact mem_issuesAt_quest

/-- Nowhere is more than one thing wrong. -/
theorem Defect.unique {place : Place} {first second : Issue} (hfirst : world.Defect place first)
    (hsecond : world.Defect place second) : first = second := by
  cases hfirst with
  | missingNeighbour => cases hsecond; rfl
  | noTown hnone =>
      cases hsecond with
      | noTown => rfl
      | manyTowns hmany => rw [hnone] at hmany; cases hmany
  | manyTowns hmany =>
      cases hsecond with
      | noTown hnone => rw [hnone] at hmany; cases hmany
      | manyTowns => rfl
  | unlocksMissing hmissing =>
      cases hsecond with
      | unlocksMissing => rfl
      | unlocksNoWaypoint harea => exact absurd harea hmissing
  | unlocksNoWaypoint harea =>
      cases hsecond with
      | unlocksMissing hmissing => exact absurd harea hmissing
      | unlocksNoWaypoint => rfl
  | unknownAct => cases hsecond; rfl

theorem length_ite_le (c : Prop) [Decidable c] (issue : Issue) :
    (if c then [] else [issue]).length ≤ 1 := by
  split <;> simp

theorem length_issuesAt_le (place : Place) : (world.issuesAt place).length ≤ 1 := by
  cases place with
  | road area id => exact length_ite_le _ _
  | act act =>
      show (world.reviewAct act).length ≤ 1
      unfold reviewAct
      split <;> simp
  | unlock boss id =>
      show (world.reviewUnlock boss id).length ≤ 1
      unfold reviewUnlock
      cases world.area? id with
      | none => exact Nat.le_refl 1
      | some area => exact length_ite_le _ _
  | quest quest => exact length_ite_le _ _

/-- What a review finds at places in a row is what is wrong there. -/
theorem reports_flatMap (places : List Place) :
    world.Reports places (places.flatMap world.issuesAt) := by
  induction places with
  | nil => exact .nil
  | cons place places ih =>
      have hlength := world.length_issuesAt_le place
      rw [List.flatMap_cons]
      cases hissues : world.issuesAt place with
      | nil =>
          refine .fine (fun issue hdefect => ?_) ih
          have hmem := mem_issuesAt_iff.mpr hdefect
          rw [hissues] at hmem
          cases hmem
      | cons issue issues =>
          rw [hissues, List.length_cons] at hlength
          obtain rfl : issues = [] := List.length_eq_zero_iff.mp (by omega)
          refine .wrong (mem_issuesAt_iff.mp ?_) ih
          rw [hissues]
          exact List.mem_cons_self

/-- What is reported is what is wrong somewhere. -/
theorem Reports.mem_iff {places : List Place} {issues : List Issue} {issue : Issue}
    (h : world.Reports places issues) :
    issue ∈ issues ↔ ∃ place ∈ places, world.Defect place issue := by
  induction h with
  | nil => simp
  | @wrong place places found issues hdefect hrest ih =>
      rw [List.mem_cons, List.exists_mem_cons_iff, ih]
      exact or_congr_left ⟨fun h => h ▸ hdefect, fun h => h.unique hdefect⟩
  | @fine place places issues hfine hrest ih =>
      rw [List.exists_mem_cons_iff, ih]
      exact (or_iff_right (hfine issue)).symm

/-- A review looks at all places of the tables. -/
theorem review_eq :
    world.review =
      (world.places (world.acts.mergeSort fun a b => a.value ≤ b.value)).flatMap
        world.issuesAt := by
  have hroads : world.reviewArea = fun area =>
      area.neighbours.flatMap fun id => world.issuesAt (.road area.id id) := by
    funext area
    unfold reviewArea
    induction area.neighbours with
    | nil => rfl
    | cons id ids ih =>
        rw [List.filter_cons, List.flatMap_cons, ← ih]
        show _ = (if world.areas.has id then [] else [Issue.missingNeighbour area.id id]) ++ _
        cases world.areas.has id <;> rfl
  rw [review, places]
  simp only [List.flatMap_append, List.flatMap_assoc, List.flatMap_map, hroads]
  rfl

theorem reports_review :
    world.Reports (world.places (world.acts.mergeSort fun a b => a.value ≤ b.value))
      world.review :=
  review_eq ▸ reports_flatMap _

/-! ## The review and the town index -/

theorem mem_places_act {acts : List Act} : Place.act act ∈ world.places acts ↔ act ∈ acts := by
  simp [places]

/-- What is reported of an act is what is wrong with it. -/
theorem mem_review_of_act {issue : Issue}
    (hact : ∀ place, world.Defect place issue → place = .act act) :
    issue ∈ world.review ↔ act ∈ world.acts ∧ world.Defect (.act act) issue := by
  rw [reports_review.mem_iff]
  constructor
  · rintro ⟨place, hplace, hdefect⟩
    obtain rfl := hact place hdefect
    exact ⟨List.mem_mergeSort.mp (mem_places_act.mp hplace), hdefect⟩
  · rintro ⟨hacts, hdefect⟩
    exact ⟨.act act, mem_places_act.mpr (List.mem_mergeSort.mpr hacts), hdefect⟩

theorem noTown_mem_review_iff :
    .noTown act ∈ world.review ↔ act ∈ world.acts ∧ world.townsOf act = [] := by
  have hact : ∀ place, world.Defect place (.noTown act) → place = .act act := by
    intro place hdefect
    cases hdefect with
    | noTown => rfl
  rw [mem_review_of_act hact]
  refine and_congr_right fun _ => ⟨fun hdefect => ?_, .noTown⟩
  cases hdefect with
  | noTown hnone => exact hnone

theorem manyTowns_mem_review {act : Act} (hact : act ∈ world.acts)
    (hmany : 1 < (world.townsOf act).length) :
    .manyTowns act (world.townsOf act).length ∈ world.review := by
  refine (mem_review_of_act fun place hdefect => ?_).mpr ⟨hact, .manyTowns hmany⟩
  cases hdefect with
  | manyTowns => rfl

theorem townsOf_of_same {a b : Act} (h : a.same b = true) : world.townsOf a = world.townsOf b := by
  have hvalue : a.value = b.value := beq_iff_eq.mp h
  simp only [townsOf, Act.same, hvalue]

/-- A review reports just the acts of areas that the town index lacks. -/
theorem noTown_reported_iff (act : Act) :
    (∃ written, .noTown written ∈ world.review ∧ written.same act = true) ↔
      (∃ area ∈ world.areas.values, area.act.same act = true) ∧ world.towns.of? act = none := by
  rw [towns_of?_eq_none_iff, ← any_acts_iff, List.any_eq_true]
  simp only [noTown_mem_review_iff]
  constructor
  · rintro ⟨written, ⟨hmem, hnone⟩, hsame⟩
    exact ⟨⟨written, hmem, hsame⟩, townsOf_of_same hsame ▸ hnone⟩
  · rintro ⟨⟨written, hmem, hsame⟩, hnone⟩
    exact ⟨written, ⟨hmem, (townsOf_of_same hsame).trans hnone⟩, hsame⟩

/-- If no act has several towns, a town is what the index has for its act. -/
theorem towns_of?_of_single (hsingle : ∀ act count, .manyTowns act count ∉ world.review)
    (hmem : area ∈ world.areas.values) (htown : area.isTown = true) :
    world.towns.of? area.act = some area.id := by
  obtain ⟨written, hwritten, hsame⟩ := exists_same_of_mem (List.mem_map_of_mem hmem)
  have hfew : ¬1 < (world.townsOf area.act).length := by
    rw [← townsOf_of_same hsame]
    exact fun hmany => hsingle _ _ (manyTowns_mem_review hwritten hmany)
  have harea : area ∈ world.townsOf area.act :=
    mem_townsOf.mpr ⟨hmem, htown, beq_self_eq_true area.act.value⟩
  rw [towns_of?_eq]
  match htowns : world.townsOf area.act with
  | [] => rw [htowns] at harea; cases harea
  | [only] =>
      rw [htowns] at harea
      rw [List.mem_singleton.mp harea]
      rfl
  | _ :: _ :: _ => rw [htowns] at hfew; simp at hfew

end World

/-- A review finds nothing in a world that was made of tables exactly if its connections lead to
areas, every act that has areas has just one town, kills unlock areas with a waypoint, and the acts
of quests have areas. It reports that an act has no town just for the acts of areas that the town
index lacks; the index has the last town of each act, and any town of an act if no act is said to
have several. What is wrong is reported once at each place, in the order of the tables, and the acts
in increasing order. -/
theorem review_is_exact {areas unlocks quests : Json} {world : World}
    (hworld : World.ofTables areas unlocks quests = .ok world) :
    (world.review = [] ↔
      (∀ area ∈ world.areas.values, ∀ id ∈ area.neighbours, world.IsArea id) ∧
      (∀ area ∈ world.areas.values, ∃! town,
        town ∈ world.areas.values ∧ town.isTown = true ∧ town.act.same area.act = true) ∧
      (∀ entry ∈ world.unlocks, ∀ id ∈ entry.2, world.IsWaypoint id) ∧
      ∀ quest ∈ world.quests.values,
        ∃ area ∈ world.areas.values, area.act.same quest.act = true) ∧
    (∀ act, (∃ written, .noTown written ∈ world.review ∧ written.same act = true) ↔
      (∃ area ∈ world.areas.values, area.act.same act = true) ∧ world.towns.of? act = none) ∧
    (∀ act town, world.towns.of? act = some town ↔ world.IsLastTown act town) ∧
    ((∀ act count, .manyTowns act count ∉ world.review) →
      ∀ area ∈ world.areas.values, area.isTown = true →
        world.towns.of? area.act = some area.id) ∧
    ∃ acts, world.ListsActs acts ∧ world.Reports (world.places acts) world.review := by
  have hloaded := World.loaded_of_ofTables hworld
  refine ⟨?_, World.noTown_reported_iff, fun act town => World.towns_of?_eq_some_iff,
    fun hsingle area hmem htown => World.towns_of?_of_single hsingle hmem htown,
    _, World.listsActs_mergeSort, World.reports_review⟩
  rw [World.review_eq_nil_iff]
  simp only [← World.townCount_eq_one_iff hloaded]
  constructor
  · rintro ⟨hneighbours, htowns, hunlocks, hquests⟩
    exact ⟨hneighbours, htowns, hunlocks, hquests⟩
  · rintro ⟨hneighbours, htowns, hunlocks, hquests⟩
    exact ⟨hneighbours, htowns, hunlocks, hquests⟩

namespace Harbour

/-- Two towns of one act, and an act without a town. -/
def areas : Json := .record [
  ("dock", .record [("id", .text "dock"), ("act", .int 1), ("name", .text "The Dock"),
    ("connection_ids", .array [.text "sea"]), ("is_town_area", .bool true)]),
  ("cave", .record [("id", .text "cave"), ("act", .int 2), ("name", .text "The Cave")]),
  ("fort", .record [("id", .text "fort"), ("act", .int 1), ("name", .text "The Fort"),
    ("is_town_area", .bool true)])]

/-- The smuggler knows one place that is not there and one that has no waypoint. -/
def unlocks : Json := .record [("smuggler", .array [.text "sea", .text "cave"])]

/-- A quest of an act that has no areas. -/
def quests : Json := .record [
  ("wreck", .record [("id", .text "wreck"), ("name", .text "The Wreck"), ("act", .int 5)])]

/-- What the tables describe. -/
def world : World where
  areas := [
    ("dock", {
      id := "dock", act := ⟨1, false⟩, name := "The Dock", neighbours := ["sea"]
      isTown := true, hasWaypoint := false, recipes := [] }),
    ("cave", {
      id := "cave", act := ⟨2, false⟩, name := "The Cave", neighbours := []
      isTown := false, hasWaypoint := false, recipes := [] }),
    ("fort", {
      id := "fort", act := ⟨1, false⟩, name := "The Fort", neighbours := []
      isTown := true, hasWaypoint := false, recipes := [] })]
  unlocks := [("smuggler", ["sea", "cave"])]
  quests := [
    ("wreck", { id := "wreck", name := "The Wreck", act := ⟨5, false⟩, offers := [] })]

theorem world_ofTables : World.ofTables areas unlocks quests = .ok world := by
  with_unfolding_all rfl

/-- The acts are in order as they are. -/
theorem review_world : world.review =
    [.missingNeighbour "dock" "sea", .manyTowns ⟨1, false⟩ 2, .noTown ⟨2, false⟩,
      .unlocksMissing "smuggler" "sea", .unlocksNoWaypoint "smuggler" "cave",
      .unknownAct "wreck" ⟨5, false⟩] := by
  have hacts : (world.acts.mergeSort fun a b => a.value ≤ b.value) = world.acts :=
    List.mergeSort_of_pairwise (by decide)
  rw [World.review, hacts]
  rfl

end Harbour

theorem the_harbour_is_reported :
    World.ofTables Harbour.areas Harbour.unlocks Harbour.quests = .ok Harbour.world ∧
      Harbour.world.review =
        [.missingNeighbour "dock" "sea", .manyTowns ⟨1, false⟩ 2, .noTown ⟨2, false⟩,
          .unlocksMissing "smuggler" "sea", .unlocksNoWaypoint "smuggler" "cave",
          .unknownAct "wreck" ⟨5, false⟩] ∧
      Harbour.world.IsLastTown ⟨1, false⟩ "fort" ∧
      ∃ acts, Harbour.world.ListsActs acts ∧
        Harbour.world.Reports (Harbour.world.places acts) Harbour.world.review := by
  obtain ⟨-, -, hlast, -, hreports⟩ := review_is_exact Harbour.world_ofTables
  exact ⟨Harbour.world_ofTables, Harbour.review_world, (hlast ⟨1, false⟩ "fort").mp (by decide),
    hreports⟩

end Walkthrough

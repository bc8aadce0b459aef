import Mathlib.Data.List.Forall2
import Mathlib.Tactic.MkIffOfInductiveProp
import Walkthrough.Proofs.Json.Sound
import Walkthrough.Proofs.Number.Rounding
import Walkthrough.Proofs.World.Shape

/-!
# What tables describe

The tables of a world are checked first and read afterwards, and the reader puts up with everything:
what is missing or of the wrong kind reads as nothing. Here the format is said once, as what a table
describes, without the shapes and without the reader. The check lets pass just the tables that
describe something, and what is read from them is what they describe.

* `Area.Described`, `Quest.Described`, `World.Described` — what a table describes;
* `Agrees` — a shape and a reader that agree with such a description, with one lemma for each way of
  building shapes;
* `tables_make_just_the_world_they_describe` — which tables make a world, and which world.
-/

namespace Walkthrough

open Walkthrough.Text (Letters)

variable {α : Type}

/-! ## Descriptions -/

namespace Json

def IsText (json : Json) (text : Letters) : Prop := json = .string text

def IsName (json : Json) (name : Letters) : Prop := json = .string name ∧ name ≠ []

def IsFlag (json : Json) (value : Bool) : Prop := json = .bool value

/-- An array whose items describe the values, in this order. -/
def IsListOf (means : Json → α → Prop) (json : Json) (values : List α) : Prop :=
  ∃ items, json = .array items ∧ List.Forall₂ means items values

/-- An object whose members have the keys of the table and describe its values, in this order. -/
def IsTableOf (means : Json → α → Prop) (json : Json) (table : Table Letters α) : Prop :=
  ∃ members, json = .object members ∧
    List.Forall₂ (fun member entry => member.1 = entry.1 ∧ means member.2 entry.2) members table

/-- An object all of whose keys are listed. -/
def HasOnly (keys : List String) (json : Json) : Prop :=
  ∃ members, json = .object members ∧
    ∀ key ∈ Table.keys members, ∃ known ∈ keys, Letters.ofString known = key

/-- An object that has the member, which describes the value. -/
def Gives (json : Json) (key : String) (means : Json → α → Prop) (value : α) : Prop :=
  ∃ member, json.member? key = some member ∧ means member value

/-- An object that may lack the member, which stands for the default. -/
def MayGive (json : Json) (key : String) (means : Json → α → Prop) (default value : α) : Prop :=
  json.Gives key means value ∨ json.member? key = none ∧ value = default

end Json

/-- A whole number from one on, or a double that is equal to such a number. -/
inductive Act.Described : Json → Act → Prop
  | whole {n : Int} (hn : 1 ≤ n) : Described (.int n) ⟨n, false⟩
  | double {x : Binary64} {n : Int} (hx : x.toRat? = some (n : Rat)) (hn : 1 ≤ n) :
    Described (.float x) ⟨n, true⟩

@[mk_iff]
structure Area.Described (json : Json) (area : Area) : Prop where
  known : json.HasOnly ["id", "act", "name", "connection_ids", "is_town_area", "has_waypoint",
    "crafting_recipes"]
  id : json.Gives "id" Json.IsName area.id
  act : json.Gives "act" Act.Described area.act
  name : json.Gives "name" Json.IsText area.name
  neighbours : json.MayGive "connection_ids" (Json.IsListOf Json.IsName) [] area.neighbours
  isTown : json.MayGive "is_town_area" Json.IsFlag false area.isTown
  hasWaypoint : json.MayGive "has_waypoint" Json.IsFlag false area.hasWaypoint
  recipes : json.MayGive "crafting_recipes" (Json.IsListOf Json.IsText) [] area.recipes

@[mk_iff]
structure Offer.Described (json : Json) (offer : Offer) : Prop where
  known : json.HasOnly ["quest_npc", "quest", "vendor"]
  npc : json.Gives "quest_npc" Json.IsText offer.npc
  quest : json.MayGive "quest" (Json.IsTableOf (Json.IsListOf Json.IsText)) [] offer.quest
  vendor : json.MayGive "vendor" (Json.IsTableOf (Json.IsListOf Json.IsText)) [] offer.vendor

@[mk_iff]
structure Quest.Described (json : Json) (quest : Quest) : Prop where
  known : json.HasOnly ["id", "name", "act", "reward_offers"]
  id : json.Gives "id" Json.IsName quest.id
  name : json.Gives "name" Json.IsText quest.name
  act : json.Gives "act" Act.Described quest.act
  offers : json.MayGive "reward_offers" (Json.IsListOf Offer.Described) [] quest.offers

/-- What counts as nothing describes the empty table; any other value has to be a table. -/
def Json.IsTableIfAny (means : Json → α → Prop) (json : Json) (table : Table Letters α) : Prop :=
  if json.isNothing then table = [] else json.IsTableOf means table

/-- The world that three tables describe. -/
structure World.Described (areas unlocks quests : Json) (world : World) : Prop where
  areas : areas.IsTableOf Area.Described world.areas
  /-- Every area stands under its id. -/
  key_eq_id : ∀ entry ∈ world.areas, entry.1 = entry.2.id
  unlocks : unlocks.IsTableIfAny (Json.IsListOf Json.IsName) world.unlocks
  quests : quests.IsTableIfAny Quest.Described world.quests

/-! ## Shapes and readers that agree with them -/

/-- The shape accepts just the values that describe something, which is what the reader reads. An
object that had a key twice would be read as one that has it once, so keys have to be distinct. -/
def Agrees (shape : Shape) (read : Json → α) (means : Json → α → Prop) : Prop :=
  ∀ json, json.Distinct → ∀ value, means json value ↔ shape json = [] ∧ read json = value

theorem agrees_text : Agrees Shape.text Json.asText Json.IsText := by
  intro json hjson text
  rw [Shape.text_eq_nil_iff]
  constructor
  · rintro rfl
    exact ⟨⟨text, rfl⟩, rfl⟩
  · rintro ⟨⟨text, rfl⟩, rfl⟩
    rfl

theorem agrees_name : Agrees Shape.name Json.asText Json.IsName := by
  intro json hjson name
  rw [Shape.name_eq_nil_iff]
  constructor
  · rintro ⟨rfl, hne⟩
    exact ⟨⟨name, rfl, hne⟩, rfl⟩
  · rintro ⟨⟨name, rfl, hne⟩, rfl⟩
    exact ⟨rfl, hne⟩

theorem agrees_flag : Agrees Shape.flag Json.asFlag Json.IsFlag := by
  intro json hjson value
  rw [Shape.flag_eq_nil_iff]
  constructor
  · rintro rfl
    exact ⟨⟨value, rfl⟩, rfl⟩
  · rintro ⟨⟨value, rfl⟩, rfl⟩
    rfl

theorem agrees_count : Agrees Shape.count Act.ofJson Act.Described := by
  intro json hjson act
  constructor
  · rintro (⟨hn⟩ | ⟨hx, hn⟩)
    · exact ⟨if_neg (by omega), rfl⟩
    · have hint := Binary64.toInt?_eq_some_iff.mpr hx
      have hone : Binary64.belowOne _ = false :=
        Bool.eq_false_iff.mpr fun hbelow => absurd ((Binary64.belowOne_iff hx).mp hbelow) (by omega)
      exact ⟨by simp [Shape.count, hint, hone], by simp [Act.ofJson, hint]⟩
  · rintro ⟨hshape, rfl⟩
    cases json with
    | int n =>
        have hn : ¬n < 1 := by
          intro hless
          rw [Shape.count, if_pos hless] at hshape
          cases hshape
        exact .whole (by omega)
    | float x =>
        obtain ⟨hkind, hbelow⟩ := List.append_eq_nil_iff.mp hshape
        cases hint : x.toInt? with
        | none =>
            rw [hint] at hkind
            cases hkind
        | some n =>
            have hx := Binary64.toInt?_eq_some_iff.mp hint
            have hn : ¬n < 1 := by
              intro hless
              rw [if_pos ((Binary64.belowOne_iff hx).mpr hless)] at hbelow
              cases hbelow
            rw [Act.ofJson, hint, Option.getD_some]
            exact .double hx (by omega)
    | _ => cases hshape

/-- Lists correspond item by item exactly if every item will do and the second list is the image of
the first one. -/
theorem forall₂_iff_map_eq {β : Type} {R : β → α → Prop} {good : β → Prop} {f : β → α}
    {items : List β} (h : ∀ item ∈ items, ∀ value, R item value ↔ good item ∧ f item = value)
    {values : List α} :
    List.Forall₂ R items values ↔ (∀ item ∈ items, good item) ∧ items.map f = values := by
  induction items generalizing values with
  | nil => simp [eq_comm]
  | cons item items ih =>
      obtain ⟨hitem, hrest⟩ := List.forall_mem_cons.mp h
      cases values with
      | nil => simp
      | cons value values =>
          rw [List.forall₂_cons, hitem, ih hrest, List.forall_mem_cons, List.map_cons,
            List.cons.injEq]
          exact and_and_and_comm

namespace Agrees

variable {shape : Shape} {read : Json → α} {means : Json → α → Prop}

theorem list (h : Agrees shape read means) :
    Agrees (.list shape) (fun json => json.items.map read) (Json.IsListOf means) := by
  intro json hjson values
  rw [Shape.list_eq_nil_iff]
  have hitems {items : List Json} (hjson : (Json.array items).Distinct) :
      List.Forall₂ means items values ↔
        (∀ item ∈ items, shape item = []) ∧ items.map read = values :=
    forall₂_iff_map_eq fun item hitem => h item (Json.distinct_array_iff.mp hjson item hitem)
  constructor
  · rintro ⟨items, rfl, hvalues⟩
    obtain ⟨hshape, hread⟩ := (hitems hjson).mp hvalues
    exact ⟨⟨items, rfl, hshape⟩, hread⟩
  · rintro ⟨⟨items, rfl, hshape⟩, hread⟩
    exact ⟨items, rfl, (hitems hjson).mpr ⟨hshape, hread⟩⟩

/-- Members with a key each are read one by one. -/
theorem entries_object {members : Table Letters Json} (hkeys : (Table.keys members).Nodup) :
    (Json.object members).entries read = members.map fun member => (member.1, read member.2) := by
  apply Table.ofEntries_of_nodup
  rw [Table.keys, Json.members, List.map_map]
  exact hkeys

theorem dict (h : Agrees shape read means) :
    Agrees (.dict shape) (Json.entries read) (Json.IsTableOf means) := by
  intro json hjson table
  rw [Shape.dict_eq_nil_iff]
  have hmembers {members : Table Letters Json} (hjson : (Json.object members).Distinct) :
      List.Forall₂ (fun member entry => member.1 = entry.1 ∧ means member.2 entry.2)
          members table ↔
        (∀ member ∈ members, shape member.2 = []) ∧
          (Json.object members).entries read = table := by
    obtain ⟨hkeys, hvalues⟩ := Json.distinct_object_iff.mp hjson
    rw [entries_object hkeys]
    apply forall₂_iff_map_eq
    intro member hmember entry
    rw [h member.2 (hvalues member hmember), Prod.ext_iff]
    exact and_left_comm
  constructor
  · rintro ⟨members, rfl, htable⟩
    obtain ⟨hshape, hread⟩ := (hmembers hjson).mp htable
    exact ⟨⟨members, rfl, hshape⟩, hread⟩
  · rintro ⟨⟨members, rfl, hshape⟩, hread⟩
    exact ⟨members, rfl, (hmembers hjson).mpr ⟨hshape, hread⟩⟩

end Agrees

/-! ## Records -/

/-- What a record asks of one of its fields. -/
def Shape.Field.Accepts (field : Field) (json : Json) : Prop :=
  (field.required = true → (json.member? field.key).isSome = true) ∧
    ∀ value, json.member? field.key = some value → field.shape value = []

theorem Shape.record_eq_nil_iff_accepts {fields : List Field} {json : Json} :
    record fields json = [] ↔
      json.HasOnly (fields.map Field.key) ∧ ∀ field ∈ fields, field.Accepts json := by
  rw [record_eq_nil_iff]
  constructor
  · rintro ⟨members, rfl, hrequired, hshape, hknown⟩
    refine ⟨⟨members, rfl, ?_⟩, fun field hfield => ⟨hrequired field hfield, hshape field hfield⟩⟩
    intro key hkey
    obtain ⟨field, hfield, rfl⟩ := strangers_eq_nil_iff.mp hknown key hkey
    exact ⟨field.key, List.mem_map_of_mem hfield, rfl⟩
  · rintro ⟨⟨members, rfl, hknown⟩, haccepts⟩
    refine ⟨members, rfl, fun field hfield => (haccepts field hfield).1,
      fun field hfield => (haccepts field hfield).2, strangers_eq_nil_iff.mpr ?_⟩
    intro key hkey
    obtain ⟨known, hmem, rfl⟩ := hknown key hkey
    obtain ⟨field, hfield, rfl⟩ := List.mem_map.mp hmem
    exact ⟨field, hfield, rfl⟩

theorem Json.Distinct.member {json member : Json} (h : json.Distinct) {key : String}
    (hmember : json.member? key = some member) : member.Distinct := by
  cases json with
  | object members =>
      exact (distinct_object_iff.mp h).2 (Letters.ofString key, member) (Table.mem_of_get? hmember)
  | _ => cases hmember

namespace Agrees

variable {shape : Shape} {read : Json → α} {means : Json → α → Prop} {json : Json}

theorem gives_iff (h : Agrees shape read means) (hjson : json.Distinct) (key : String)
    (value : α) :
    json.Gives key means value ↔
      Shape.Field.Accepts ⟨key, true, shape⟩ json ∧ read (json.valueAt key) = value := by
  unfold Json.Gives Shape.Field.Accepts Json.valueAt
  cases hmember : json.member? key with
  | none => simp
  | some member => simp [h member (hjson.member hmember)]

theorem mayGive_iff (h : Agrees shape read means) (hjson : json.Distinct) (key : String)
    (default : α) (hnull : read .null = default) (value : α) :
    json.MayGive key means default value ↔
      Shape.Field.Accepts ⟨key, false, shape⟩ json ∧ read (json.valueAt key) = value := by
  unfold Json.MayGive Json.Gives Shape.Field.Accepts Json.valueAt
  cases hmember : json.member? key with
  | none => simp [hnull, eq_comm]
  | some member => simp [h member (hjson.member hmember)]

end Agrees

/-! ## The tables of a world -/

theorem agrees_names : Agrees Shape.names (fun json => json.items.map Json.asText)
    (Json.IsListOf Json.IsName) :=
  agrees_name.list

theorem agrees_gems : Agrees Offer.gemsShape Offer.gems
    (Json.IsTableOf (Json.IsListOf Json.IsText)) :=
  agrees_text.list.dict

theorem agrees_area : Agrees Area.shape Area.ofJson Area.Described := by
  intro json hjson area
  obtain ⟨id, act, name, neighbours, isTown, hasWaypoint, recipes⟩ := area
  rw [Area.described_iff, Area.shape, Shape.record_eq_nil_iff_accepts, Area.ofJson, Area.mk.injEq,
    agrees_name.gives_iff hjson, agrees_count.gives_iff hjson, agrees_text.gives_iff hjson,
    agrees_names.mayGive_iff hjson _ [] rfl, agrees_flag.mayGive_iff hjson _ false rfl,
    agrees_flag.mayGive_iff hjson _ false rfl, agrees_text.list.mayGive_iff hjson _ [] rfl]
  simp only [List.forall_mem_cons, List.map_cons, List.map_nil, Json.textAt, Json.textsAt,
    Json.flagAt]
  -- Both sides say the same of every member, one member by member, the other first what is accepted
  -- and then what is read.
  constructor
  · intro h
    simp [h]
  · intro h
    simp only [h, and_self]

theorem agrees_offer : Agrees Offer.shape Offer.ofJson Offer.Described := by
  intro json hjson offer
  obtain ⟨npc, quest, vendor⟩ := offer
  rw [Offer.described_iff, Offer.shape, Shape.record_eq_nil_iff_accepts, Offer.ofJson,
    Offer.mk.injEq, agrees_text.gives_iff hjson, agrees_gems.mayGive_iff hjson _ [] rfl,
    agrees_gems.mayGive_iff hjson _ [] rfl]
  simp only [List.forall_mem_cons, List.map_cons, List.map_nil, Json.textAt]
  constructor
  · intro h
    simp [h]
  · intro h
    simp only [h, and_self]

theorem agrees_quest : Agrees Quest.shape Quest.ofJson Quest.Described := by
  intro json hjson quest
  obtain ⟨id, name, act, offers⟩ := quest
  rw [Quest.described_iff, Quest.shape, Shape.record_eq_nil_iff_accepts, Quest.ofJson,
    Quest.mk.injEq, agrees_name.gives_iff hjson, agrees_text.gives_iff hjson,
    agrees_count.gives_iff hjson, agrees_offer.list.mayGive_iff hjson _ [] rfl]
  simp only [List.forall_mem_cons, List.map_cons, List.map_nil, Json.textAt]
  constructor
  · intro h
    simp [h]
  · intro h
    simp only [h, and_self]

/-- A table that may be missing is checked and read as what takes its place. -/
theorem Agrees.orEmpty {shape : Shape} {read : Json → α} {means : Json → α → Prop} {json : Json}
    (h : Agrees shape read means) (hjson : json.Distinct) (table : Table Letters α) :
    json.IsTableIfAny means table ↔
      Shape.dict shape json.orEmpty = [] ∧ json.orEmpty.entries read = table := by
  unfold Json.IsTableIfAny Json.orEmpty
  by_cases hnothing : json.isNothing = true
  · rw [if_pos hnothing, if_pos hnothing]
    exact ⟨fun htable => ⟨rfl, htable.symm⟩, fun hread => hread.2.symm⟩
  · rw [if_neg hnothing, if_neg hnothing]
    exact h.dict json hjson table

/-- The world that tables describe is the one that is read from them, if they have their shapes and
their areas stand under their ids. -/
theorem World.described_iff {areas unlocks quests : Json} (hareas : areas.Distinct)
    (hunlocks : unlocks.Distinct) (hquests : quests.Distinct) {world : World} :
    World.Described areas unlocks quests world ↔
      World.areasShape areas = [] ∧ World.unlocksShape unlocks.orEmpty = [] ∧
        World.questsShape quests.orEmpty = [] ∧
        (∀ entry ∈ areas.entries Area.ofJson, entry.1 = entry.2.id) ∧
        world = {
          areas := areas.entries Area.ofJson
          unlocks := unlocks.orEmpty.entries fun ids => ids.items.map Json.asText
          quests := quests.orEmpty.entries Quest.ofJson } := by
  obtain ⟨areaTable, unlockTable, questTable⟩ := world
  have hareaTable := agrees_area.dict areas hareas areaTable
  have hunlockTable := agrees_names.orEmpty hunlocks unlockTable
  have hquestTable := agrees_quest.orEmpty hquests questTable
  rw [World.mk.injEq]
  constructor
  · intro h
    obtain ⟨hareaShape, hareaRead⟩ := hareaTable.mp h.areas
    obtain ⟨hunlockShape, hunlockRead⟩ := hunlockTable.mp h.unlocks
    obtain ⟨hquestShape, hquestRead⟩ := hquestTable.mp h.quests
    refine ⟨hareaShape, hunlockShape, hquestShape, ?_, hareaRead.symm, hunlockRead.symm,
      hquestRead.symm⟩
    rw [hareaRead]
    exact h.key_eq_id
  · rintro ⟨hareaShape, hunlockShape, hquestShape, hkeys, rfl, rfl, rfl⟩
    exact ⟨hareaTable.mpr ⟨hareaShape, rfl⟩, hkeys, hunlockTable.mpr ⟨hunlockShape, rfl⟩,
      hquestTable.mpr ⟨hquestShape, rfl⟩⟩

/-- Tables are accepted exactly if they describe a world, and it is this world that is made: nothing
that they hold is lost, and nothing is made up but what may be missing. -/
theorem tables_make_just_the_world_they_describe {areas unlocks quests : Json}
    (hareas : areas.Distinct) (hunlocks : unlocks.Distinct) (hquests : quests.Distinct)
    (world : World) :
    World.ofTables areas unlocks quests = .ok world ↔
      World.Described areas unlocks quests world :=
  World.ofTables_eq_ok_iff.trans (World.described_iff hareas hunlocks hquests).symm

namespace Quay

/-- A quay with an empty name, from which no way leads anywhere. -/
def areas : Json := .record [
  ("quay", .record [("act", .int 1), ("name", .text ""),
    ("id", .text "quay"), ("crafting_recipes", .array [.text "rope", .text ""])])]

/-- The keeper of the quay sells a ruby to witches, and a pearl to everybody. -/
def quests : Json := .record [
  ("toll", .record [("id", .text "toll"), ("name", .text "The Toll"), ("act", .int 2),
    ("reward_offers", .array [.record [("quest_npc", .text "keeper"),
      ("vendor", .record [("ruby", .array [.text "Witch"]), ("pearl", .array [])])]])])]

/-- What the tables describe. -/
def world : World where
  areas := [
    ("quay", {
      id := "quay", act := ⟨1, false⟩, name := "", neighbours := []
      isTown := false, hasWaypoint := false, recipes := ["rope", ""] })]
  unlocks := []
  quests := [
    ("toll", {
      id := "toll", name := "The Toll", act := ⟨2, false⟩
      offers := [
        { npc := "keeper", quest := [], vendor := [("ruby", ["Witch"]), ("pearl", [])] }] })]

theorem world_ofTables : World.ofTables areas (.bool false) quests = .ok world := by
  with_unfolding_all rfl

end Quay

theorem the_quay_is_as_described :
    Quay.areas.Distinct ∧ (Json.bool false).Distinct ∧ Quay.quests.Distinct ∧
      World.Described Quay.areas (.bool false) Quay.quests Quay.world := by
  have hareas : Quay.areas.Distinct := by
    simp [Quay.areas, Json.record, Json.text, Table.keys]
  have hquests : Quay.quests.Distinct := by
    simp [Quay.quests, Json.record, Json.text, Table.keys]
  exact ⟨hareas, .bool, hquests,
    (tables_make_just_the_world_they_describe hareas .bool hquests Quay.world).mp
      Quay.world_ofTables⟩

end Walkthrough

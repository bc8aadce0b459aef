import Walkthrough.Travel.Attempt

/-!
# The rules of travel

What a group can do, said once. The programs of the verbs write to the progress in place; here each
of them is run once and for all, and from then on nobody has to look inside.

* `run_performEnter` and its siblings — what becomes of each verb, with the progress it leaves;
* `Does` — the rules: under which conditions a group is accepted, what it yields and where it leads;
* `attempt_eq_ok_iff` — a group is accepted exactly as the rules say;
* `PortalRefused` — the four reasons why the portal cannot be used;
* `eq_of_attempt_eq_error` — a refused group has written nothing.
-/

namespace Walkthrough

open Walkthrough.Text (Letters)

namespace Progress

/-- The progress after an area is entered. -/
def entering (here : Progress) (area : Area) : Progress :=
  { here with
    currentArea := area.id
    lastTown := if area.isTown then area.id else here.lastTown
    implicit :=
      if area.isTown ∧ area.hasWaypoint then here.implicit.insert area.id else here.implicit }

/-- The progress after a journey by waypoint from one area to another. -/
def travelling (here : Progress) (origin target : Area) : Progress :=
  { here with
    currentArea := target.id
    implicit := here.implicit.insert origin.id
    used := here.used.insert target.id }

/-- A town that is entered is the last town then; any other area leaves it alone. -/
theorem lastTown_entering (here : Progress) (area : Area) :
    (area.isTown = true ∧ (here.entering area).lastTown = area.id) ∨
      (here.entering area).lastTown = here.lastTown := by
  unfold entering
  by_cases h : area.isTown = true
  · exact .inl ⟨h, if_pos h⟩
  · exact .inr (if_neg h)

theorem mem_known {here : Progress} {id : Letters} :
    id ∈ here.known ↔ id ∈ here.implicit ∨ id ∈ here.explicit := by
  rw [known, IdSet.mem_union]

theorem mem_implicit_entering {here : Progress} {area : Area} {id : Letters} :
    id ∈ (here.entering area).implicit ↔
      (area.isTown = true ∧ area.hasWaypoint = true ∧ id = area.id) ∨ id ∈ here.implicit := by
  unfold entering
  by_cases h : area.isTown = true ∧ area.hasWaypoint = true
  · simp [h]
  · rw [if_neg h]
    constructor
    · exact .inr
    · rintro (⟨ht, hw, -⟩ | hmem)
      · exact absurd ⟨ht, hw⟩ h
      · exact hmem

/-- An open portal has an area, and its id is not empty. -/
theorem openPortal?_eq_some_iff {here : Progress} {portal : Letters} :
    here.openPortal? = some portal ↔ here.portalArea = some portal ∧ portal ≠ [] := by
  simp [openPortal?, Option.filter_eq_some_iff]

end Progress

section Running

/-! ## Running the verbs -/

variable (guide : Guide) (here : Progress)

theorem run_demand (p : Prop) [Decidable p] (cause : Refusal) :
    (demand p cause).run here = if p then .ok () here else .error cause here := by
  unfold demand
  by_cases h : p
  · rw [if_pos h, if_pos h]; rfl
  · rw [if_neg h, if_neg h]; rfl

theorem run_expect {α : Type} (value? : Option α) (cause : Refusal) :
    (expect value? cause).run here =
      match value? with
      | some value => .ok value here
      | none => .error cause here := by
  cases value? <;> rfl

theorem run_performArea (id : Letters) :
    (performArea guide id).run here =
      match guide.world.area? id with
      | some area => .ok ⟨.area area.id, []⟩ here
      | none => .error (.unknownArea id) here := by
  rw [performArea, EStateM.run_bind, Guide.findArea, run_expect]
  cases guide.world.area? id <;> rfl

theorem run_performEnter (id : Letters) :
    (performEnter guide id).run here =
      match guide.world.area? id with
      | some area =>
        if area.isConnectedTo here.currentArea then
          .ok ⟨.enter area.id, []⟩ (here.entering area)
        else .error (.notConnected area.id) here
      | none => .error (.unknownArea id) here := by
  rw [performEnter, EStateM.run_bind, Guide.findArea, run_expect]
  cases guide.world.area? id with
  | none => rfl
  | some area =>
      simp only [EStateM.run_bind, EStateM.run_get, run_demand]
      by_cases hc : area.isConnectedTo here.currentArea = true
      · rw [if_pos hc, if_pos hc]
        unfold Progress.entering noteTown
        cases area.isTown <;> cases area.hasWaypoint <;> rfl
      · rw [if_neg hc, if_neg hc]

theorem run_performWaypoint (id : Letters) :
    (performWaypoint guide id).run here =
      match guide.world.area? id with
      | some area =>
        if area.id ∈ here.known then
          match guide.world.area? here.currentArea with
          | some current =>
            if current.hasWaypoint then
              .ok ⟨.waypoint (some area.id), []⟩ (here.travelling current area)
            else .error (.noWaypoint here.currentArea) here
          | none => .error (.noWaypoint here.currentArea) here
        else .error (.waypointNotKnown area.id) here
      | none => .error (.unknownArea id) here := by
  rw [performWaypoint, EStateM.run_bind, Guide.findArea, run_expect]
  cases guide.world.area? id with
  | none => rfl
  | some area =>
      simp only [EStateM.run_bind, EStateM.run_get, run_demand, run_expect]
      by_cases hk : area.id ∈ here.known
      · rw [if_pos hk, if_pos hk]
        cases guide.world.area? here.currentArea with
        | none => rfl
        | some current =>
            simp only []
            cases current.hasWaypoint <;> rfl
      · rw [if_neg hk, if_neg hk]

theorem run_performGetWaypoint :
    (performGetWaypoint guide).run here =
      match guide.world.area? here.currentArea with
      | some area =>
        if area.hasWaypoint then
          if area.id ∉ here.implicit then
            .ok ⟨.getWaypoint, []⟩ { here with explicit := here.explicit.insert area.id }
          else .error (.waypointAcquired area.id) here
        else .error (.noWaypoint area.id) here
      | none => .error (.unknownArea here.currentArea) here := by
  rw [performGetWaypoint, EStateM.run_bind, EStateM.run_get]
  simp only [EStateM.run_bind, Guide.findArea, run_expect]
  cases guide.world.area? here.currentArea with
  | none => rfl
  | some area =>
      simp only [run_demand]
      cases area.hasWaypoint with
      | false => rfl
      | true =>
          simp only [if_true]
          by_cases hi : area.id ∉ here.implicit
          · rw [if_pos hi, if_pos hi]; rfl
          · rw [if_neg hi, if_neg hi]

theorem run_performUsePortal :
    (performUsePortal guide).run here =
      match here.openPortal? with
      | some portal =>
        match guide.world.area? here.currentArea with
        | some area =>
          if area.id = portal then
            match guide.townOf? area.act with
            | some town => .ok ⟨.usePortal, []⟩ { here with currentArea := town }
            | none => .error (.actHasNoTown area.act area.id) here
          else if area.isTown then
            .ok ⟨.usePortal, []⟩ { here with currentArea := portal, portalArea := none }
          else .error (.portalOutOfReach area.id) here
        | none => .error (.unknownArea here.currentArea) here
      | none => .error .portalNotSet here := by
  rw [performUsePortal, EStateM.run_bind, EStateM.run_get]
  simp only [EStateM.run_bind, Guide.findArea, run_expect]
  cases here.openPortal? with
  | none => rfl
  | some portal =>
      simp only []
      cases guide.world.area? here.currentArea with
      | none => rfl
      | some area =>
          simp only []
          by_cases hp : area.id = portal
          · rw [if_pos hp, if_pos hp]
            simp only [EStateM.run_bind, run_expect]
            cases guide.townOf? area.act <;> rfl
          · rw [if_neg hp, if_neg hp]
            simp only [EStateM.run_bind, run_demand]
            cases area.isTown <;> rfl

theorem run_performAscend :
    (performAscend guide).run here =
      if here.currentArea = guide.labyrinth then
        .ok ⟨.ascend, []⟩ { here with currentArea := here.lastTown }
      else
        .error (.notInLabyrinth (guide.world.areaName guide.labyrinth) here.currentArea) here := by
  rw [performAscend, EStateM.run_bind, EStateM.run_get]
  simp only [EStateM.run_bind, run_demand]
  by_cases h : here.currentArea = guide.labyrinth
  · rw [if_pos h, if_pos h]; rfl
  · rw [if_neg h, if_neg h]

theorem run_performCrafting (id? : Option Letters) :
    (performCrafting guide id?).run here =
      match guide.world.area? (id?.getD here.currentArea) with
      | some area =>
        .ok ⟨.crafting area.recipes, []⟩ { here with crafted := here.crafted.insert area.id }
      | none => .error (.unknownArea (id?.getD here.currentArea)) here := by
  rw [performCrafting, EStateM.run_bind, EStateM.run_get]
  simp only [EStateM.run_bind, Guide.findArea, run_expect]
  cases guide.world.area? (id?.getD here.currentArea) <;> rfl

theorem run_performDir (text : String) :
    (performDir text).run here =
      match readDegrees? text with
      | some number =>
        match Direction.ofNumber? number with
        | some eighths => .ok ⟨.dir eighths, []⟩ here
        | none => .error .directionNotEighth here
      | none => .error .directionNotNumber here := by
  rw [performDir, EStateM.run_bind, run_expect]
  cases readDegrees? text with
  | none => rfl
  | some number =>
      simp only [EStateM.run_bind, run_expect]
      cases Direction.ofNumber? number <;> rfl

theorem run_performQuest (key : String) (fields : List String) :
    (performQuest guide key fields).run here =
      match guide.world.quest? key with
      | some quest =>
        match offerPositions? quest.offers.length fields with
        | some positions =>
          let picked := Reward.collectFor guide.build (quest.considered positions) here.gems
          .ok ⟨.quest quest.id positions, picked.1⟩ { here with gems := picked.2 }
        | none => .error .badFormat here
      | none => .error .unknownQuest here := by
  rw [performQuest, EStateM.run_bind, run_expect]
  cases guide.world.quest? key with
  | none => rfl
  | some quest =>
      simp only [EStateM.run_bind, run_expect]
      cases offerPositions? quest.offers.length fields <;> rfl

end Running

/-! ## The rules -/

/-- The rules of travel: `Does guide here fields done after` says that where the progress is `here`
the group is accepted, that it yields `done`, and that `after` is the progress then. -/
inductive Does (guide : Guide) (here : Progress) : List String → Accepted → Progress → Prop
  | kill (boss : String) :
      Does guide here ["kill", boss] ⟨.kill boss, []⟩
        { here with implicit := here.implicit.insertAll (guide.world.unlockedBy boss) }
  | arena (place : String) : Does guide here ["arena", place] ⟨.arena place, []⟩ here
  | area {id : String} {area : Area} : guide.world.area? id = some area →
      Does guide here ["area", id] ⟨.area area.id, []⟩ here
  | enter {id : String} {area : Area} : guide.world.area? id = some area →
      area.isConnectedTo here.currentArea = true →
      Does guide here ["enter", id] ⟨.enter area.id, []⟩ (here.entering area)
  | town : Does guide here ["town"] ⟨.town, []⟩ { here with currentArea := here.lastTown }
  /-- Without a target the waypoint is a mere reminder. -/
  | reminder : Does guide here ["waypoint"] ⟨.waypoint none, []⟩ here
  | waypoint {id : String} {area current : Area} : guide.world.area? id = some area →
      area.id ∈ here.known → guide.world.area? here.currentArea = some current →
      current.hasWaypoint = true →
      Does guide here ["waypoint", id] ⟨.waypoint (some area.id), []⟩
        (here.travelling current area)
  | getWaypoint {area : Area} : guide.world.area? here.currentArea = some area →
      area.hasWaypoint = true → area.id ∉ here.implicit →
      Does guide here ["get_waypoint"] ⟨.getWaypoint, []⟩
        { here with explicit := here.explicit.insert area.id }
  | setPortal : Does guide here ["set_portal"] ⟨.setPortal, []⟩
      { here with portalArea := some here.currentArea }
  /-- From its area the portal leads to the town of the act and stays open. -/
  | portalToTown {area : Area} {town : Letters} : here.openPortal? = some area.id →
      guide.world.area? here.currentArea = some area → guide.townOf? area.act = some town →
      Does guide here ["use_portal"] ⟨.usePortal, []⟩ { here with currentArea := town }
  /-- From a town the portal leads back to its area and closes. -/
  | portalBack {area : Area} {portal : Letters} : here.openPortal? = some portal →
      guide.world.area? here.currentArea = some area → area.id ≠ portal → area.isTown = true →
      Does guide here ["use_portal"] ⟨.usePortal, []⟩
        { here with currentArea := portal, portalArea := none }
  | quest {key : String} {fields : List String} {quest : Quest} {positions : List Nat} :
      guide.world.quest? key = some quest →
      offerPositions? quest.offers.length fields = some positions →
      Does guide here ("quest" :: key :: fields)
        ⟨.quest quest.id positions,
          (Reward.collectFor guide.build (quest.considered positions) here.gems).1⟩
        { here with
          gems := (Reward.collectFor guide.build (quest.considered positions) here.gems).2 }
  | questText (text : String) : Does guide here ["quest_text", text] ⟨.questText text, []⟩ here
  | generic (text : String) : Does guide here ["generic", text] ⟨.generic text, []⟩ here
  | trial : Does guide here ["trial"] ⟨.trial, []⟩ here
  | ascend : here.currentArea = guide.labyrinth →
      Does guide here ["ascend"] ⟨.ascend, []⟩ { here with currentArea := here.lastTown }
  | dir {text : String} {number : Binary64} {eighths : Fin 8} : readDegrees? text = some number →
      Direction.ofNumber? number = some eighths →
      Does guide here ["dir", text] ⟨.dir eighths, []⟩ here
  | crafting {id : String} {area : Area} : guide.world.area? id = some area →
      Does guide here ["crafting", id] ⟨.crafting area.recipes, []⟩
        { here with crafted := here.crafted.insert area.id }
  | craftingHere {area : Area} : guide.world.area? here.currentArea = some area →
      Does guide here ["crafting"] ⟨.crafting area.recipes, []⟩
        { here with crafted := here.crafted.insert area.id }

variable {guide : Guide} {here after : Progress} {fields : List String} {done : Accepted}

/-- The first field of an accepted group is the name of the verb of its action. -/
theorem Does.head?_fields (h : Does guide here fields done after) :
    fields.head? = some done.action.verb.name := by
  cases h <;> rfl

/-- What stands first in an attempted group decides about its program. -/
theorem attempt_cons (verb : Verb) (rest : List String) :
    attempt guide here (verb.name :: rest) =
      (verb.perform guide (verb.name :: rest)).run here := by
  rw [attempt, perform, List.head?_cons, Option.bind_some, Verb.ofName?_name]

/-- A group whose first field names no verb is refused for its format. -/
theorem attempt_eq_of_no_verb (h : ∀ verb : Verb, ∀ rest, fields ≠ verb.name :: rest) :
    attempt guide here fields = .error .badFormat here := by
  have hverb : fields.head?.bind Verb.ofName? = none := by
    cases fields with
    | nil => rfl
    | cons name rest =>
        cases hname : Verb.ofName? name with
        | none => exact hname
        | some verb => exact absurd (by rw [Verb.name_of_ofName? hname]) (h verb rest)
  rw [attempt, perform, hverb]
  rfl

/-- Whatever the rules allow is accepted. -/
theorem attempt_of_does (h : Does guide here fields done after) :
    attempt guide here fields = .ok done after := by
  cases h with
  | kill boss => exact attempt_cons .kill _
  | arena place => exact attempt_cons .arena _
  | area harea =>
      refine (attempt_cons .area _).trans ((run_performArea guide here _).trans ?_)
      rw [harea]
  | enter harea hconn =>
      refine (attempt_cons .enter _).trans ((run_performEnter guide here _).trans ?_)
      simp only [harea]
      rw [if_pos hconn]
  | town => exact attempt_cons .town _
  | reminder => exact attempt_cons .waypoint _
  | waypoint harea hknown hcur hway =>
      refine (attempt_cons .waypoint _).trans ((run_performWaypoint guide here _).trans ?_)
      simp only [harea, hcur]
      rw [if_pos hknown, if_pos hway]
  | getWaypoint harea hway hnew =>
      refine (attempt_cons .getWaypoint _).trans ((run_performGetWaypoint guide here).trans ?_)
      simp only [harea]
      rw [if_pos hway, if_pos hnew]
  | setPortal => exact attempt_cons .setPortal _
  | portalToTown hopen harea htown =>
      refine (attempt_cons .usePortal _).trans ((run_performUsePortal guide here).trans ?_)
      simp only [hopen, harea, htown, if_true]
  | portalBack hopen harea hne htown =>
      refine (attempt_cons .usePortal _).trans ((run_performUsePortal guide here).trans ?_)
      simp only [hopen, harea]
      rw [if_neg hne, if_pos htown]
  | quest hquest hpos =>
      refine (attempt_cons .quest _).trans ((run_performQuest guide here _ _).trans ?_)
      simp only [hquest, hpos]
  | questText text => exact attempt_cons .questText _
  | generic text => exact attempt_cons .generic _
  | trial => exact attempt_cons .trial _
  | ascend hlab =>
      refine (attempt_cons .ascend _).trans ((run_performAscend guide here).trans ?_)
      rw [if_pos hlab]
  | dir hnum hdir =>
      refine (attempt_cons .dir _).trans ((run_performDir here _).trans ?_)
      simp only [hnum, hdir]
  | crafting harea =>
      refine (attempt_cons .crafting _).trans ((run_performCrafting guide here _).trans ?_)
      simp only [Option.getD_some, harea]
  | craftingHere harea =>
      refine (attempt_cons .crafting _).trans ((run_performCrafting guide here none).trans ?_)
      simp only [Option.getD_none, harea]

/-- What becomes of a group: the rules allow it, or it is refused with nothing written. -/
def Settled (guide : Guide) (here : Progress) (fields : List String) : Prop :=
  (∃ done after, Does guide here fields done after) ∨
    ∃ cause, attempt guide here fields = .error cause here

/-- A group whose fields are not those of its verb is refused with nothing written. -/
theorem Settled.badFormat (verb : Verb) (rest : List String)
    (h : verb.perform guide (verb.name :: rest) = throw .badFormat) :
    Settled guide here (verb.name :: rest) := by
  refine .inr ⟨.badFormat, ?_⟩
  rw [attempt_cons, h]
  rfl

theorem settled_area (id : String) : Settled guide here ["area", id] := by
  have hrun := (attempt_cons .area [id]).trans (run_performArea guide here id)
  cases harea : guide.world.area? id with
  | none => rw [harea] at hrun; exact .inr ⟨_, hrun⟩
  | some area => exact .inl ⟨_, _, .area harea⟩

theorem settled_enter (id : String) : Settled guide here ["enter", id] := by
  have hrun := (attempt_cons .enter [id]).trans (run_performEnter guide here id)
  cases harea : guide.world.area? id with
  | none => rw [harea] at hrun; exact .inr ⟨_, hrun⟩
  | some area =>
      simp only [harea] at hrun
      by_cases hconn : area.isConnectedTo here.currentArea = true
      · exact .inl ⟨_, _, .enter harea hconn⟩
      · rw [if_neg hconn] at hrun; exact .inr ⟨_, hrun⟩

theorem settled_waypoint (id : String) : Settled guide here ["waypoint", id] := by
  have hrun := (attempt_cons .waypoint [id]).trans (run_performWaypoint guide here id)
  cases harea : guide.world.area? id with
  | none => rw [harea] at hrun; exact .inr ⟨_, hrun⟩
  | some area =>
      simp only [harea] at hrun
      by_cases hknown : area.id ∈ here.known
      · rw [if_pos hknown] at hrun
        cases hcur : guide.world.area? here.currentArea with
        | none => rw [hcur] at hrun; exact .inr ⟨_, hrun⟩
        | some current =>
            simp only [hcur] at hrun
            by_cases hway : current.hasWaypoint = true
            · exact .inl ⟨_, _, .waypoint harea hknown hcur hway⟩
            · rw [if_neg hway] at hrun; exact .inr ⟨_, hrun⟩
      · rw [if_neg hknown] at hrun; exact .inr ⟨_, hrun⟩

theorem settled_getWaypoint : Settled guide here ["get_waypoint"] := by
  have hrun := (attempt_cons .getWaypoint []).trans (run_performGetWaypoint guide here)
  cases harea : guide.world.area? here.currentArea with
  | none => rw [harea] at hrun; exact .inr ⟨_, hrun⟩
  | some area =>
      simp only [harea] at hrun
      by_cases hway : area.hasWaypoint = true
      · rw [if_pos hway] at hrun
        by_cases hnew : area.id ∉ here.implicit
        · exact .inl ⟨_, _, .getWaypoint harea hway hnew⟩
        · rw [if_neg hnew] at hrun; exact .inr ⟨_, hrun⟩
      · rw [if_neg hway] at hrun; exact .inr ⟨_, hrun⟩

theorem settled_usePortal : Settled guide here ["use_portal"] := by
  have hrun := (attempt_cons .usePortal []).trans (run_performUsePortal guide here)
  cases hopen : here.openPortal? with
  | none => rw [hopen] at hrun; exact .inr ⟨_, hrun⟩
  | some portal =>
      simp only [hopen] at hrun
      cases harea : guide.world.area? here.currentArea with
      | none => rw [harea] at hrun; exact .inr ⟨_, hrun⟩
      | some area =>
          simp only [harea] at hrun
          by_cases hid : area.id = portal
          · rw [if_pos hid] at hrun
            cases htown : guide.townOf? area.act with
            | none => rw [htown] at hrun; exact .inr ⟨_, hrun⟩
            | some town => exact .inl ⟨_, _, .portalToTown (hid ▸ hopen) harea htown⟩
          · rw [if_neg hid] at hrun
            by_cases htown : area.isTown = true
            · exact .inl ⟨_, _, .portalBack hopen harea hid htown⟩
            · rw [if_neg htown] at hrun; exact .inr ⟨_, hrun⟩

theorem settled_quest (key : String) (fields : List String) :
    Settled guide here ("quest" :: key :: fields) := by
  have hrun := (attempt_cons .quest (key :: fields)).trans (run_performQuest guide here key fields)
  cases hquest : guide.world.quest? key with
  | none => rw [hquest] at hrun; exact .inr ⟨_, hrun⟩
  | some quest =>
      simp only [hquest] at hrun
      cases hpos : offerPositions? quest.offers.length fields with
      | none => rw [hpos] at hrun; exact .inr ⟨_, hrun⟩
      | some positions => exact .inl ⟨_, _, .quest hquest hpos⟩

theorem settled_ascend : Settled guide here ["ascend"] := by
  have hrun := (attempt_cons .ascend []).trans (run_performAscend guide here)
  by_cases hlab : here.currentArea = guide.labyrinth
  · exact .inl ⟨_, _, .ascend hlab⟩
  · rw [if_neg hlab] at hrun; exact .inr ⟨_, hrun⟩

theorem settled_dir (text : String) : Settled guide here ["dir", text] := by
  have hrun : attempt guide here ["dir", text] = _ :=
    (attempt_cons .dir [text]).trans (run_performDir here text)
  cases hnum : readDegrees? text with
  | none => rw [hnum] at hrun; exact .inr ⟨_, hrun⟩
  | some number =>
      simp only [hnum] at hrun
      cases hdir : Direction.ofNumber? number with
      | none => rw [hdir] at hrun; exact .inr ⟨_, hrun⟩
      | some eighths => exact .inl ⟨_, _, .dir hnum hdir⟩

theorem settled_crafting (id : String) : Settled guide here ["crafting", id] := by
  have hrun := (attempt_cons .crafting [id]).trans (run_performCrafting guide here (some id))
  simp only [Option.getD_some] at hrun
  cases harea : guide.world.area? id with
  | none => rw [harea] at hrun; exact .inr ⟨_, hrun⟩
  | some area => exact .inl ⟨_, _, .crafting harea⟩

theorem settled_craftingHere : Settled guide here ["crafting"] := by
  have hrun := (attempt_cons .crafting []).trans (run_performCrafting guide here none)
  simp only [Option.getD_none] at hrun
  cases harea : guide.world.area? here.currentArea with
  | none => rw [harea] at hrun; exact .inr ⟨_, hrun⟩
  | some area => exact .inl ⟨_, _, .craftingHere harea⟩

/-- Every group is allowed by the rules or refused with nothing written. -/
theorem settled (guide : Guide) (here : Progress) (fields : List String) :
    Settled guide here fields := by
  by_cases hverb : ∃ verb : Verb, ∃ rest, fields = verb.name :: rest
  · obtain ⟨verb, rest, rfl⟩ := hverb
    -- Most numbers of fields are wrong for the verb; what is left are the rules, in their order.
    cases verb <;> rcases rest with _ | ⟨a, _ | ⟨b, rest⟩⟩ <;> try exact .badFormat _ _ rfl
    · exact .inl ⟨_, _, .kill a⟩
    · exact .inl ⟨_, _, .arena a⟩
    · exact settled_area a
    · exact settled_enter a
    · exact .inl ⟨_, _, .town⟩
    · exact .inl ⟨_, _, .reminder⟩
    · exact settled_waypoint a
    · exact settled_getWaypoint
    · exact .inl ⟨_, _, .setPortal⟩
    · exact settled_usePortal
    · exact settled_quest a []
    · exact settled_quest a (b :: rest)
    · exact .inl ⟨_, _, .questText a⟩
    · exact .inl ⟨_, _, .generic a⟩
    · exact .inl ⟨_, _, .trial⟩
    · exact settled_ascend
    · exact settled_dir a
    · exact settled_craftingHere
    · exact settled_crafting a
  · exact .inr ⟨.badFormat, attempt_eq_of_no_verb fun verb rest h => hverb ⟨verb, rest, h⟩⟩

/-- A group is accepted exactly as the rules say. -/
theorem attempt_eq_ok_iff :
    attempt guide here fields = .ok done after ↔ Does guide here fields done after := by
  refine ⟨fun h => ?_, attempt_of_does⟩
  rcases settled guide here fields with ⟨done', after', hdoes⟩ | ⟨cause, herror⟩
  · have heq := h.symm.trans (attempt_of_does hdoes)
    injection heq with hdone hafter
    rw [hdone, hafter]
    exact hdoes
  · rw [h] at herror
    cases herror

/-- Why the portal cannot be used: what is checked, in this order, up to the check that fails. -/
inductive PortalRefused (guide : Guide) (here : Progress) : Refusal → Prop
  | notSet : here.openPortal? = none → PortalRefused guide here .portalNotSet
  | nowhere {portal : Letters} : here.openPortal? = some portal →
      guide.world.area? here.currentArea = none →
      PortalRefused guide here (.unknownArea here.currentArea)
  | noTown {area : Area} : here.openPortal? = some area.id →
      guide.world.area? here.currentArea = some area → guide.townOf? area.act = none →
      PortalRefused guide here (.actHasNoTown area.act area.id)
  | outOfReach {area : Area} {portal : Letters} : here.openPortal? = some portal →
      guide.world.area? here.currentArea = some area → area.id ≠ portal → area.isTown = false →
      PortalRefused guide here (.portalOutOfReach area.id)

theorem portalRefused_of_attempt {cause : Refusal}
    (h : attempt guide here ["use_portal"] = .error cause after) :
    PortalRefused guide here cause := by
  have hrun := h.symm.trans ((attempt_cons .usePortal []).trans (run_performUsePortal guide here))
  cases hopen : here.openPortal? with
  | none =>
      rw [hopen] at hrun
      cases hrun
      exact .notSet hopen
  | some portal =>
      simp only [hopen] at hrun
      cases harea : guide.world.area? here.currentArea with
      | none =>
          rw [harea] at hrun
          cases hrun
          exact .nowhere hopen harea
      | some area =>
          simp only [harea] at hrun
          by_cases hid : area.id = portal
          · rw [if_pos hid] at hrun
            cases htown : guide.townOf? area.act with
            | some town => rw [htown] at hrun; cases hrun
            | none =>
                rw [htown] at hrun
                cases hrun
                exact .noTown (hid ▸ hopen) harea htown
          · rw [if_neg hid] at hrun
            by_cases htown : area.isTown = true
            · rw [if_pos htown] at hrun
              cases hrun
            · rw [if_neg htown] at hrun
              cases hrun
              exact .outOfReach hopen harea hid (Bool.not_eq_true _ ▸ htown)

/-- A refused group has written nothing. -/
theorem eq_of_attempt_eq_error {cause : Refusal}
    (h : attempt guide here fields = .error cause after) : after = here := by
  rcases settled guide here fields with ⟨done, after', hdoes⟩ | ⟨cause', herror⟩
  · rw [attempt_of_does hdoes] at h
    cases h
  · rw [h] at herror
    injection herror

end Walkthrough

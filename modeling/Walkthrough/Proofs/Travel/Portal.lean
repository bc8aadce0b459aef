import Walkthrough.Proofs.Travel.Integrity
import Walkthrough.Settings

/-!
# The life of a portal

A portal is opened where the traveller stands. From there it leads to the town of the act and stays
open; from any other town it leads back and closes. Nothing else touches it, however long the way.

* `PortalStep` — what an accepted group does to the portal, with `Does.portalStep`;
* `portalArea_walk` — a walk on which nobody opens or uses a portal leaves it where it is;
* `attempt_usePortal_back`, `usePortal_round_trip` — the way back, and the way there and back;
* `not_out_of_reach_after_setPortal` — a portal that was opened just now can be reached;
* `Settings.exists_start_eq` — no run starts in the empty id, which would stand for no portal;
* `portal_leads_back` — all this holds wherever a run leads.
-/

namespace Walkthrough

open Walkthrough.Text (Letters)

variable {guide : Guide} {here after : Progress} {fields : List String} {done : Accepted}

/-! ## One group -/

/-- `PortalStep world here fields portal`: if the group is accepted where the progress is `here`,
then `portal` is the area of the portal afterwards. -/
inductive PortalStep (world : World) (here : Progress) : List String → Option Letters → Prop
  | opened : PortalStep world here ["set_portal"] (some here.currentArea)
  /-- Used in a town other than its area the portal closes. -/
  | closed : world.IsTown here.currentArea → here.portalArea ≠ some here.currentArea →
      PortalStep world here ["use_portal"] none
  /-- Used in its area it stays open, be that a town or not. -/
  | entered : here.portalArea = some here.currentArea →
      PortalStep world here ["use_portal"] here.portalArea
  | untouched {fields : List String} : fields ≠ ["set_portal"] → fields ≠ ["use_portal"] →
      PortalStep world here fields here.portalArea

theorem Does.portalStep (hloaded : guide.world.Loaded) (h : Does guide here fields done after) :
    PortalStep guide.world here fields after.portalArea := by
  cases h with
  | setPortal => exact .opened
  | portalToTown hopen harea htown =>
      have hset := (Progress.openPortal?_eq_some_iff.mp hopen).1
      rw [hloaded.id_eq harea] at hset
      exact .entered hset
  | @portalBack area portal hopen harea hne htown =>
      have hset := (Progress.openPortal?_eq_some_iff.mp hopen).1
      apply PortalStep.closed ⟨area, harea, htown⟩
      intro hhere
      rw [hset, ← hloaded.id_eq harea] at hhere
      exact hne (Option.some.inj hhere).symm
  | kill | arena | area | enter | town | reminder | waypoint | getWaypoint | quest | questText
  | generic | trial | ascend | dir | crafting | craftingHere =>
      exact .untouched (by simp) (by simp)

/-- Whether a group opens or uses a portal, if it is accepted. -/
def WorksPortal (_ : Progress) (fields : List String) : Prop :=
  fields = ["set_portal"] ∨ fields = ["use_portal"]

/-- As long as nobody opens or uses a portal it stays where it is. -/
theorem portalArea_walk (hloaded : guide.world.Loaded) {groups : List (List String)}
    (hnever : ¬Happened WorksPortal (walk guide here groups).turns) :
    (walk guide here groups).progress.portalArea = here.portalArea := by
  refine walk_keeps ?_ groups hnever
  intro here fields done after hdoes
  have hstep := hdoes.portalStep hloaded
  generalize after.portalArea = portal at hstep ⊢
  cases hstep with
  | opened => exact .inl (.inl rfl)
  | closed | entered => exact .inl (.inr rfl)
  | untouched => exact .inr rfl

/-! ## Using the portal -/

/-- In a town other than its area the portal leads back and closes. -/
theorem attempt_usePortal_back (hloaded : guide.world.Loaded) {portal : Letters}
    (hset : here.portalArea = some portal) (hportal : portal ≠ [])
    (htown : guide.world.IsTown here.currentArea) (hne : here.currentArea ≠ portal) :
    attempt guide here ["use_portal"] =
      .ok ⟨.usePortal, []⟩ { here with currentArea := portal, portalArea := none } := by
  obtain ⟨area, harea, htown⟩ := htown
  have hopen : here.openPortal? = some portal :=
    Progress.openPortal?_eq_some_iff.mpr ⟨hset, hportal⟩
  apply attempt_of_does
  apply Does.portalBack hopen harea _ htown
  rw [hloaded.id_eq harea]
  exact hne

theorem attempt_usePortal_of_closed (h : here.portalArea = none) :
    attempt guide here ["use_portal"] = .error .portalNotSet here := by
  have hopen : here.openPortal? = none := by rw [Progress.openPortal?, h]; rfl
  have hrun := (attempt_cons .usePortal []).trans (run_performUsePortal guide here)
  rw [hopen] at hrun
  exact hrun

/-- From its area the portal leads to the town of the act, and from there back. It is closed then
unless that town is its area. -/
theorem usePortal_round_trip (hloaded : guide.world.Loaded)
    (htowns : guide.towns = guide.world.towns) {place : Area} {town : Letters}
    (hset : here.portalArea = some here.currentArea)
    (hplace : guide.world.area? here.currentArea = some place)
    (htown : guide.towns.of? place.act = some town) :
    ∃ there back, attempt guide here ["use_portal"] = .ok ⟨.usePortal, []⟩ there ∧
      there.currentArea = town ∧
      attempt guide there ["use_portal"] = .ok ⟨.usePortal, []⟩ back ∧
      back.currentArea = here.currentArea ∧
      (back.portalArea = none ↔ town ≠ here.currentArea) := by
  have hne : here.currentArea ≠ [] := hloaded.ne_nil ⟨place, hplace⟩
  have hid : place.id = here.currentArea := hloaded.id_eq hplace
  have hopen : here.openPortal? = some place.id := by
    rw [hid]
    exact Progress.openPortal?_eq_some_iff.mpr ⟨hset, hne⟩
  have hthere := attempt_of_does (.portalToTown hopen hplace htown)
  by_cases hsame : town = here.currentArea
  · -- The portal was opened in the very town that it leads to, and it leads there again.
    subst hsame
    exact ⟨here, here, hthere, rfl, hthere, rfl, iff_of_false (by simp [hset]) (by simp)⟩
  · have hback := @attempt_usePortal_back guide { here with currentArea := town } hloaded _ hset hne
      (hloaded.isTown_of_towns (htowns ▸ htown)) hsame
    exact ⟨_, _, hthere, rfl, hback, rfl, iff_of_true rfl hsame⟩

/-- A portal that was opened just now is open and in reach. If it cannot be used, then because the
area is none of the world or because its act has no town. -/
theorem not_out_of_reach_after_setPortal (hloaded : guide.world.Loaded)
    (hne : here.currentArea ≠ []) {last : Progress} {cause : Refusal}
    (hopened : attempt guide here ["set_portal"] = .ok done after)
    (hrefused : attempt guide after ["use_portal"] = .error cause last) :
    cause = .unknownArea here.currentArea ∨ ∃ act, cause = .actHasNoTown act here.currentArea := by
  have hset : attempt guide here ["set_portal"] =
      .ok ⟨.setPortal, []⟩ { here with portalArea := some here.currentArea } :=
    attempt_of_does .setPortal
  rw [hopened] at hset
  injection hset with _ hafter
  subst hafter
  have hopen : ({ here with portalArea := some here.currentArea } : Progress).openPortal? =
      some here.currentArea := Progress.openPortal?_eq_some_iff.mpr ⟨rfl, hne⟩
  cases portalRefused_of_attempt hrefused with
  | notSet hnone =>
      rw [hopen] at hnone
      cases hnone
  | nowhere => exact .inl rfl
  | noTown _ harea => exact .inr ⟨_, by rw [hloaded.id_eq harea]⟩
  | outOfReach hportal harea hother =>
      rw [hopen] at hportal
      exact absurd ((hloaded.id_eq harea).trans (Option.some.inj hportal)) hother

/-! ## Runs -/

/-- What is put in the place of an empty text is not empty if the other text is not. -/
private theorem getD_filter_ne_empty (text? : Option String) {other : String} (h : other ≠ "") :
    (text?.filter fun text => !text.isEmpty).getD other ≠ "" := by
  cases hfilter : text?.filter fun text => !text.isEmpty with
  | none => exact h
  | some text =>
      obtain ⟨-, hfull⟩ := Option.filter_eq_some_iff.mp hfilter
      rintro (rfl : text = "")
      exact absurd hfull (by decide)

/-- Whatever is set in the environment, neither the area nor the town that a run starts with is the
empty id. -/
theorem Settings.exists_start_eq (environment : Environment) (host : Host)
    (area? town? : Option String) :
    ∃ area town : Letters, area ≠ [] ∧ town ≠ [] ∧
      (Settings.ofEnvironment environment host).start area? town? = .start area town := by
  have hletters {text : String} (h : text ≠ "") : Letters.ofString text ≠ [] := by
    rw [← Letters.ofString_empty]
    exact fun heq => h (Letters.ofString_inj.mp heq)
  have harea : (Settings.ofEnvironment environment host).startArea ≠ "" :=
    getD_filter_ne_empty _ (by decide)
  have htown : (Settings.ofEnvironment environment host).startTown ≠ "" :=
    getD_filter_ne_empty _ (by decide)
  exact ⟨_, _, hletters (getD_filter_ne_empty area? harea),
    hletters (getD_filter_ne_empty town? htown), rfl⟩

/-- Wherever a run leads, the portal has one life. It is opened where the traveller stands, closed
by being used in a town other than its area, and left alone by all else. However long the way, from
any other town it leads back to its area, changes nothing but that, and is closed then. Used twice
where it was opened it leads there and back, and it is closed then unless it was opened in the town
of the act. And a portal that was opened just now is never refused for not being open or for being
out of reach. That the run starts with two ids that are not empty is no restriction, by
`Settings.exists_start_eq`. -/
theorem portal_leads_back {areas unlocks quests : Json} {world : World}
    (hworld : World.ofTables areas unlocks quests = .ok world) (build : Option Build)
    (labyrinth : Letters) {area town : Letters} (harea : area ≠ []) (htown : town ≠ [])
    {here : Progress} (hreach : Reached (.of world build labyrinth) (.start area town) here) :
    let guide := Guide.of world build labyrinth
    (∀ fields done after, attempt guide here fields = .ok done after →
      PortalStep world here fields after.portalArea) ∧
    (∀ fields cause after, attempt guide here fields = .error cause after →
      after.portalArea = here.portalArea) ∧
    (∀ portal groups, here.portalArea = some portal →
      let there := (walk guide here groups).progress
      let back := { there with currentArea := portal, portalArea := none }
      ¬Happened WorksPortal (walk guide here groups).turns → world.IsTown there.currentArea →
      there.currentArea ≠ portal →
      attempt guide there ["use_portal"] = .ok ⟨.usePortal, []⟩ back ∧
        ∃ cause, attempt guide back ["use_portal"] = .error cause back ∧
          cause.message = "portal must be set") ∧
    (∀ place actTown, here.portalArea = some here.currentArea →
      world.area? here.currentArea = some place → world.towns.of? place.act = some actTown →
      ∃ there back, attempt guide here ["use_portal"] = .ok ⟨.usePortal, []⟩ there ∧
        there.currentArea = actTown ∧
        attempt guide there ["use_portal"] = .ok ⟨.usePortal, []⟩ back ∧
        back.currentArea = here.currentArea ∧
        (back.portalArea = none ↔ actTown ≠ here.currentArea)) ∧
    ∀ done after cause last, attempt guide here ["set_portal"] = .ok done after →
      attempt guide after ["use_portal"] = .error cause last →
      (cause = .unknownArea here.currentArea ∨
        ∃ act, cause = .actHasNoTown act here.currentArea) ∧
      cause.message ≠ "portal must be set" ∧
      cause.message ≠ "can only use portal from town or portal area" := by
  intro guide
  have hloaded : guide.world.Loaded := World.loaded_of_ofTables hworld
  have hintact : Intact world area town here :=
    hreach.invariant (fun h hdoes => h.step hloaded hdoes) (.initial harea htown)
  refine ⟨?_, ?_, ?_, ?_, ?_⟩
  · intro fields done after haccepted
    exact (attempt_eq_ok_iff.mp haccepted).portalStep hloaded
  · intro fields cause after hrefused
    rw [eq_of_attempt_eq_error hrefused]
  · intro portal groups hset there back hnever htown hne
    have hportal : portal ≠ [] := by
      intro hnil
      rw [hnil] at hset
      exact hintact.portalArea_ne_nil hset
    have hkept : there.portalArea = some portal := (portalArea_walk hloaded hnever).trans hset
    exact ⟨attempt_usePortal_back hloaded hkept hportal htown hne, .portalNotSet,
      attempt_usePortal_of_closed rfl, rfl⟩
  · intro place actTown hset hplace hact
    exact usePortal_round_trip hloaded rfl hset hplace hact
  · intro done after cause last hopened hrefused
    have hcause :=
      not_out_of_reach_after_setPortal hloaded hintact.currentArea_ne_nil hopened hrefused
    refine ⟨hcause, ?_⟩
    rcases hcause with rfl | ⟨act, rfl⟩
    · show "area does not exist" ≠ _ ∧ "area does not exist" ≠ _
      decide
    · have hne {text : String} (h : text.toList.head? ≠ some 'a') :
          (Refusal.actHasNoTown act here.currentArea).message ≠ text := by
        rintro rfl
        exact h (by simp [Refusal.message])
      exact ⟨hne (by decide), hne (by decide)⟩

/-- From the hamlet the portal leads back to the shore, and used twice on the shore it leads there
and back. In the cave, which is no area, it may be opened and cannot be used. -/
theorem the_portal_on_the_shore :
    let guide := Guide.of Hamlet.world none "maze"
    let start := (Settings.ofEnvironment (fun _ => none) Host.standard).start (some "shore")
      (some "hamlet")
    let here := (attempt guide start ["set_portal"]).progress
    let groups := [["generic", "mind the tide"], ["enter", "hamlet"]]
    let there := (walk guide here groups).progress
    let back := { there with currentArea := "shore", portalArea := none }
    let lost := (Settings.ofEnvironment (fun _ => none) Host.standard).start (some "cave") none
    World.ofTables Hamlet.areas Hamlet.unlocks .null = .ok Hamlet.world ∧
      PortalStep Hamlet.world start ["set_portal"] here.portalArea ∧
      (attempt guide here ["enter", "maze"]).progress.portalArea = here.portalArea ∧
      attempt guide there ["use_portal"] = .ok ⟨.usePortal, []⟩ back ∧
      (∃ cause, attempt guide back ["use_portal"] = .error cause back ∧
        cause.message = "portal must be set") ∧
      (∃ town back, attempt guide here ["use_portal"] = .ok ⟨.usePortal, []⟩ town ∧
        attempt guide town ["use_portal"] = .ok ⟨.usePortal, []⟩ back ∧
        back.currentArea = "shore" ∧ back.portalArea = none) ∧
      ∃ after cause last, attempt guide lost ["set_portal"] = .ok ⟨.setPortal, []⟩ after ∧
        attempt guide after ["use_portal"] = .error cause last ∧
        cause.message ≠ "portal must be set" := by
  intro guide start here groups there back lost
  obtain ⟨area, town, harea, htown, hstart⟩ :=
    Settings.exists_start_eq (fun _ => none) Host.standard (some "shore") (some "hamlet")
  have hreach : Reached guide (.start area town) start := hstart ▸ .start
  obtain ⟨hstep, -⟩ := portal_leads_back Hamlet.world_ofTables none "maze" harea htown hreach
  obtain ⟨-, hrefused, hback, htrip, -⟩ := portal_leads_back Hamlet.world_ofTables none "maze"
    harea htown (.attempt ["set_portal"] hreach)
  obtain ⟨area', town', harea', htown', hlost⟩ :=
    Settings.exists_start_eq (fun _ => none) Host.standard (some "cave") none
  have hreach' : Reached guide (.start area' town') lost := hlost ▸ .start
  obtain ⟨-, -, -, -, hfresh⟩ := portal_leads_back Hamlet.world_ofTables none "maze"
    harea' htown' hreach'
  have hnever : ¬Happened WorksPortal (walk guide here groups).turns := by
    apply not_happened_walk
    simp [groups, WorksPortal]
  have hhamlet : Hamlet.world.IsTown there.currentArea := by
    refine ⟨_, rfl, ?_⟩
    rfl
  obtain ⟨hused, hclosed⟩ := hback "shore" groups rfl hnever hhamlet (by decide)
  obtain ⟨inTown, home, hthere, -, hhome, hplace, hportal⟩ := htrip _ "hamlet" rfl rfl rfl
  have hgone := hfresh _ _ (.unknownArea "cave") _ rfl rfl
  exact ⟨Hamlet.world_ofTables, hstep ["set_portal"] _ here rfl,
    hrefused ["enter", "maze"] (.unknownArea "maze") _ rfl, hused, hclosed,
    ⟨inTown, home, hthere, hhome, hplace, hportal.mpr (by decide)⟩,
    ⟨_, _, _, rfl, rfl, hgone.2.1⟩⟩

end Walkthrough

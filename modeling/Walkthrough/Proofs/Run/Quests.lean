import Walkthrough.Proofs.Run.Bare
import Walkthrough.Proofs.Run.Ledger
import Walkthrough.Proofs.Run.Selection
import Walkthrough.Proofs.World.Loaded
import Walkthrough.World.Review

/-!
# Handing in quests

Whether a hand-in is accepted, and what it shows, is up to the world alone. The gems that are held
afterwards are those held before and all that the hand-ins have for the build, so the order of the
hand-ins does not matter for them, though it does for who hands out which gem.

* `answer` — what a hand-in is answered, without the gems;
* `HandsOut` — the gems that a hand-in has for the build, with `mem_gems_walk_iff`: what is held
  after a walk;
* `attempt_of_held` — a hand-in that has nothing new changes nothing;
* `hand_ins_show_their_keys_iff` — a hand-in shows the id of its quest, which is the key that it
  names if the quests stand under their ids;
* `order_of_hand_ins_does_not_matter` — hand-ins in any order, and hand-ins that are repeated.
-/

namespace Walkthrough

open Walkthrough.Text (Letters)

variable {guide : Guide} {here after : Progress} {fields : List String} {done : Accepted}

/-! ## Answers -/

/-- What the hand-in of a quest is answered: the action that it shows, or why it is refused. -/
def answer (guide : Guide) : List String → Except Refusal Action
  | _ :: key :: fields =>
    match guide.world.quest? key with
    | none => .error .unknownQuest
    | some quest =>
      match offerPositions? quest.offers.length fields with
      | none => .error .badFormat
      | some positions => .ok (.quest quest.id positions)
  | _ => .error .badFormat

/-- What became of a group, without the gems. -/
def Turn.answer (turn : Turn) : Except Refusal Action := turn.verdict.map Accepted.action

theorem exists_cons_of_isQuest (h : isQuest fields = true) : ∃ rest, fields = "quest" :: rest :=
  eq_cons_of_verbOf? (beq_iff_eq.mp h)

/-- The answer to a hand-in does not depend on the progress. -/
theorem map_verdict_of_isQuest (here : Progress) (h : isQuest fields = true) :
    (attempt guide here fields).verdict.map Accepted.action = answer guide fields := by
  obtain ⟨rest, rfl⟩ := exists_cons_of_isQuest h
  cases rest with
  | nil => rfl
  | cons key fields =>
      have hrun := (attempt_cons .quest (key :: fields)).trans
        (run_performQuest guide here key fields)
      rw [Verb.name] at hrun
      rw [hrun, answer]
      cases guide.world.quest? key with
      | none => rfl
      | some quest =>
          simp only []
          cases offerPositions? quest.offers.length fields <;> rfl

theorem map_answer_walk {groups : List (List String)}
    (h : ∀ fields ∈ groups, isQuest fields = true) :
    (walk guide here groups).turns.map Turn.answer = groups.map (answer guide) := by
  induction groups generalizing here with
  | nil => rfl
  | cons fields groups ih =>
      obtain ⟨hfields, hgroups⟩ := List.forall_mem_cons.mp h
      rw [walk_cons, List.map_cons, List.map_cons, ih hgroups,
        ← map_verdict_of_isQuest here hfields]
      rfl

/-! ## What is handed out -/

/-- A group is the hand-in of a quest, and an offer that it considers has the gem for the build. -/
def HandsOut (guide : Guide) (fields : List String) (id : Letters) : Prop :=
  ∃ key rest quest positions offers, fields = "quest" :: key :: rest ∧
    guide.world.quest? key = some quest ∧ Considers quest rest positions offers ∧
    id ∈ gemsOf (candidates guide.build offers)

/-- A hand-in that has something for the build is accepted wherever it is attempted. -/
theorem HandsOut.exists_does {id : Letters} (h : HandsOut guide fields id) (here : Progress) :
    ∃ done after, Does guide here fields done after := by
  obtain ⟨key, rest, quest, positions, offers, rfl, hquest, hconsiders, -⟩ := h
  exact ⟨_, _, .quest hquest (considers_iff.mp hconsiders).1⟩

theorem handsOut_iff {key : String} {rest : List String} {quest : Quest} {positions : List Nat}
    {offers : List Offer} {id : Letters} (hquest : guide.world.quest? key = some quest)
    (hconsiders : Considers quest rest positions offers) :
    HandsOut guide ("quest" :: key :: rest) id ↔ id ∈ gemsOf (candidates guide.build offers) := by
  constructor
  · rintro ⟨key', rest', quest', positions', offers', hfields, hquest', hconsiders', hid⟩
    cases hfields
    cases hquest.symm.trans hquest'
    obtain ⟨hpositions, rfl⟩ := considers_iff.mp hconsiders
    obtain ⟨hpositions', rfl⟩ := considers_iff.mp hconsiders'
    cases hpositions.symm.trans hpositions'
    exact hid
  · exact fun hid => ⟨key, rest, quest, positions, offers, rfl, hquest, hconsiders, hid⟩

/-- The gems grow by all that is handed out and by nothing else. -/
theorem Does.mem_gems_iff {id : Letters} (h : Does guide here fields done after) :
    id ∈ after.gems ↔ id ∈ here.gems ∨ HandsOut guide fields id := by
  by_cases hverb : done.action.verb = .quest
  · cases h with
    | @quest key rest quest positions hquest hpositions =>
        rw [collectFor_eq_choose, handsOut_iff hquest (considers_iff.mpr ⟨hpositions, rfl⟩)]
        have hchosen :=
          chosen_choose here.gems (candidates guide.build (quest.considered positions))
        constructor
        · intro hafter
          refine ((hchosen.grown id).mp hafter).imp_right fun hnew => ?_
          exact ((hchosen.missing id).mp hnew).1
        · rintro (hheld | hout)
          · exact (hchosen.grown id).mpr (.inl hheld)
          · exact hchosen.complete id hout
    | _ => cases hverb
  · rw [(h.gems_eq hverb).1]
    refine (or_iff_left ?_).symm
    rintro ⟨key, rest, -, -, -, rfl, -⟩
    exact hverb (Option.some.inj (h.verbOf?_eq.symm.trans (verbOf?_cons .quest (key :: rest))))

/-- After a walk the gems are those held before it and those that its groups hand out. -/
theorem mem_gems_walk_iff {id : Letters} {groups : List (List String)} :
    id ∈ (walk guide here groups).progress.gems ↔
      id ∈ here.gems ∨ ∃ fields ∈ groups, HandsOut guide fields id := by
  have hhistory : id ∈ (walk guide here groups).progress.gems ↔ id ∈ here.gems ∨
      Happened (fun _ fields => HandsOut guide fields id) (walk guide here groups).turns :=
    walk_history (P := fun p => id ∈ p.gems) Does.mem_gems_iff groups
  rw [hhistory]
  apply or_congr_right
  have hfields := @map_fields_turns guide here groups
  constructor
  · rintro ⟨turn, hturn, -, hout⟩
    exact ⟨turn.fields, hfields ▸ List.mem_map_of_mem hturn, hout⟩
  · rintro ⟨fields, hmem, hout⟩
    rw [← hfields] at hmem
    obtain ⟨turn, hturn, rfl⟩ := List.mem_map.mp hmem
    obtain ⟨done, after, hdoes⟩ := hout.exists_does turn.here
    refine ⟨turn, hturn, ?_, hout⟩
    rw [Turn.isAccepted, verdict_of_mem_walk hturn, attempt_of_does hdoes]
    rfl

/-! ## Hand-ins that have nothing new -/

/-- Of gems that are all held nothing is chosen. -/
theorem choose_of_held {held : IdSet} {cs : List Candidate} (h : ∀ id ∈ gemsOf cs, id ∈ held) :
    choose held cs = ([], held) := by
  induction cs with
  | nil => rfl
  | cons c cs ih =>
      rw [gemsOf_cons, List.forall_mem_cons] at h
      rw [choose_cons, if_pos h.1, ih h.2]

/-- A hand-in that has nothing new for the build yields no gem and leaves the progress alone. -/
theorem attempt_of_held (hkind : isQuest fields = true)
    (hheld : ∀ id, HandsOut guide fields id → id ∈ here.gems) :
    (attempt guide here fields).verdict = (answer guide fields).map (⟨·, []⟩) ∧
      (attempt guide here fields).progress = here := by
  rw [← map_verdict_of_isQuest here hkind]
  rcases settled guide here fields with ⟨done, after, hdoes⟩ | ⟨cause, herror⟩
  · have hverb : done.action.verb = .quest :=
      Option.some.inj (hdoes.verbOf?_eq.symm.trans (beq_iff_eq.mp hkind))
    rw [attempt_of_does hdoes]
    cases hdoes with
    | quest hquest hpositions =>
        have hnothing := choose_of_held fun id hid =>
          hheld id ((handsOut_iff hquest (considers_iff.mpr ⟨hpositions, rfl⟩)).mpr hid)
        rw [collectFor_eq_choose, hnothing]
        exact ⟨rfl, rfl⟩
    | _ => cases hverb
  · rw [herror]
    exact ⟨rfl, rfl⟩

/-! ## Keys and ids -/

namespace Fair

/-- Two quests that stand under each other's ids. Both the hunter and the cook have a ruby. -/
def quests : Json := .record [
  ("hunt", .record [("id", .text "feast"), ("name", .text "The Hunt"), ("act", .int 1),
    ("reward_offers", .array [.record [("quest_npc", .text "hunter"),
      ("quest", .record [("ruby", .array [])])]])]),
  ("feast", .record [("id", .text "hunt"), ("name", .text "The Feast"), ("act", .int 1),
    ("reward_offers", .array [.record [("quest_npc", .text "cook"),
      ("vendor", .record [("ruby", .array [])])]])])]

/-- What the tables describe. -/
def world : World where
  areas := Market.world.areas
  unlocks := []
  quests := [
    ("hunt", {
      id := "feast", name := "The Hunt", act := ⟨1, false⟩
      offers := [{ npc := "hunter", quest := [("ruby", [])], vendor := [] }] }),
    ("feast", {
      id := "hunt", name := "The Feast", act := ⟨1, false⟩
      offers := [{ npc := "cook", quest := [], vendor := [("ruby", [])] }] })]

theorem world_ofTables : World.ofTables Market.areas .null quests = .ok world := by
  with_unfolding_all rfl

end Fair

/-- A hand-in shows the key that it names, and under what it shows stands the quest whose offers it
considers, just if all quests stand under their ids. A load promises this of areas only. -/
theorem hand_ins_show_their_keys_iff (guide : Guide) :
    (∀ (here : Progress) (key : String) (fields : List String) (done : Accepted) (after : Progress),
      attempt guide here ("quest" :: key :: fields) = .ok done after →
        ∃ id quest positions offers, done.action = .quest id positions ∧ id = key ∧
          guide.world.quest? id = some quest ∧ Considers quest fields positions offers ∧
          Chosen here.gems (candidates guide.build offers) done.rewards after.gems) ↔
      ∀ (key : String) (quest : Quest), guide.world.quest? key = some quest → quest.id = key := by
  constructor
  · intro hshown key quest hquest
    -- The hand-in of the key alone is accepted, whatever the quest offers.
    have hdoes : Does guide (.start [] []) ["quest", key] _ _ := .quest hquest rfl
    obtain ⟨id, _, _, _, haction, hid, -⟩ := hshown _ _ _ _ _ (attempt_of_does hdoes)
    cases haction
    exact hid
  · intro hkeys here key fields done after hok
    obtain ⟨quest, positions, offers, hquest, hconsiders, rfl, rfl⟩ :=
      (attempt_eq_ok_iff.mp hok).exists_quest
    have hid := hkeys key quest hquest
    exact ⟨quest.id, quest, positions, offers, rfl, hid, hid ▸ hquest, hconsiders,
      chosen_choose _ _⟩

/-- Whoever hands in the hunt is shown the id of the feast, which is another quest, and a review
does not tell. -/
theorem the_hunt_is_shown_as_the_feast :
    let guide := Guide.of Fair.world none "gate"
    let here := Progress.start "square" "square"
    World.ofTables Market.areas .null Fair.quests = .ok Fair.world ∧ Fair.world.review = [] ∧
      attempt guide here ["quest", "hunt"] = .ok ⟨.quest "feast" [], []⟩ here ∧
      ("feast" : Letters) ≠ "hunt" ∧
      ∃ hunt feast, Fair.world.quest? "hunt" = some hunt ∧ hunt.name = "The Hunt" ∧
        Fair.world.quest? "feast" = some feast ∧ feast.name = "The Feast" := by
  intro guide here
  exact ⟨Fair.world_ofTables, by decide +kernel, rfl, by decide, _, _, rfl, rfl, rfl, rfl⟩

/-! ## The order of hand-ins -/

/-- The gems that a walk yields, in turn. -/
def Walk.gems (w : Walk) : List Letters := (w.turns.flatMap Turn.rewards).map Reward.gem

/-- The rewards of a ledger are for what is held in the end and was not at the beginning. -/
theorem Ledger.mem_gems_iff {held after : IdSet} {rewards : List Reward} {id : Letters}
    (h : Ledger held rewards after) :
    id ∈ rewards.map Reward.gem ↔ id ∈ after ∧ id ∉ held := by
  constructor
  · exact fun hid => ⟨(h.mem_iff id).mpr (.inr hid), h.missing id hid⟩
  · exact fun ⟨hafter, hnot⟩ => ((h.mem_iff id).mp hafter).resolve_left hnot

/-- Ledgers that lead from the same gems to the same gems are for the same gems. -/
theorem Ledger.perm {held after : IdSet} {rewards others : List Reward}
    (h : Ledger held rewards after) (hothers : Ledger held others after) :
    (rewards.map Reward.gem).Perm (others.map Reward.gem) :=
  (List.perm_ext_iff_of_nodup h.nodup hothers.nodup).mpr fun _ =>
    h.mem_gems_iff.trans hothers.mem_gems_iff.symm

/-- A walk along hand-ins changes nothing but the gems. -/
theorem progress_walk_of_isQuest {groups : List (List String)}
    (h : ∀ fields ∈ groups, isQuest fields = true) :
    (walk guide here groups).progress =
      { here with gems := (walk guide here groups).progress.gems } := by
  have hstep {here after : Progress} {fields : List String} {done : Accepted}
      (hdoes : Does guide here fields done after) :
      isQuest fields = false ∨ after.bare = here.bare := by
    by_cases hverb : done.action.verb = .quest
    · cases hdoes with
      | quest => exact .inr rfl
      | _ => cases hverb
    · left
      rw [isQuest, hdoes.verbOf?_eq]
      simpa using hverb
  have hnever : ¬Happened (fun _ fields => isQuest fields = false)
      (walk guide here groups).turns :=
    not_happened_walk fun fields hmem _ => Bool.not_eq_false _ ▸ h fields hmem
  exact Progress.eq_of_bare_eq (walk_keeps hstep groups hnever).symm

/-- Hand-ins in any order are answered alike, group by group; they yield the same gems, each of them
once, and lead to the same progress. A hand-in that occurred before is answered as then, but it
yields no gem and changes nothing. -/
theorem order_of_hand_ins_does_not_matter (guide : Guide) (here : Progress) :
    (∀ first second : List (List String), (∀ fields ∈ first, isQuest fields = true) →
      first.Perm second →
        let v := walk guide here first
        let w := walk guide here second
        v.turns.map Turn.answer = first.map (answer guide) ∧
          w.turns.map Turn.answer = second.map (answer guide) ∧
          v.gems.Nodup ∧ v.gems.Perm w.gems ∧ v.progress = w.progress) ∧
    ∀ groups : List (List String), ∀ fields ∈ groups, isQuest fields = true →
      let later := (walk guide here groups).progress
      (attempt guide later fields).verdict = (answer guide fields).map (⟨·, []⟩) ∧
        (attempt guide later fields).progress = later := by
  constructor
  · intro first second hfirst hperm v w
    have hsecond : ∀ fields ∈ second, isQuest fields = true :=
      fun fields hmem => hfirst fields (hperm.mem_iff.mpr hmem)
    have hv : Ledger here.gems (v.turns.flatMap Turn.rewards) v.progress.gems := ledger_walk first
    have hw : Ledger here.gems (w.turns.flatMap Turn.rewards) w.progress.gems := ledger_walk second
    have hgems : v.progress.gems = w.progress.gems := by
      apply IdSet.ext
      intro id
      rw [mem_gems_walk_iff, mem_gems_walk_iff]
      simp only [hperm.mem_iff]
    have hprogress : v.progress = w.progress := by
      rw [progress_walk_of_isQuest hfirst, progress_walk_of_isQuest hsecond, hgems]
    exact ⟨map_answer_walk hfirst, map_answer_walk hsecond, hv.nodup, hv.perm (hgems ▸ hw),
      hprogress⟩
  · intro groups fields hmem hquest later
    exact attempt_of_held hquest fun id hout => mem_gems_walk_iff.mpr (.inr ⟨fields, hmem, hout⟩)

/-- The order decides who hands out the ruby, and about nothing else. -/
theorem the_ruby_of_the_fair_comes_once :
    let guide := Guide.of Fair.world (some ⟨"ranger", [⟨"ruby", []⟩]⟩) "gate"
    let here := Progress.start "square" "square"
    let first := [["quest", "hunt"], ["quest", "feast", "0"], ["quest", "feast", "1"]]
    let second := [["quest", "feast", "1"], ["quest", "feast", "0"], ["quest", "hunt"]]
    let v := walk guide here first
    let w := walk guide here second
    (∀ fields ∈ first, isQuest fields = true) ∧ first.Perm second ∧
      v.turns.flatMap Turn.rewards = [⟨.quest, "ruby", "hunter", none⟩] ∧
      w.turns.flatMap Turn.rewards = [⟨.vendor, "ruby", "cook", none⟩] ∧
      first.map (answer guide) =
        [.ok (.quest "feast" []), .ok (.quest "hunt" [0]), .error .badFormat] ∧
      v.turns.map Turn.answer = first.map (answer guide) ∧
      w.turns.map Turn.answer = second.map (answer guide) ∧
      v.gems.Nodup ∧ v.gems.Perm w.gems ∧ v.progress = w.progress ∧
      (attempt guide w.progress ["quest", "hunt"]).verdict = .ok ⟨.quest "feast" [], []⟩ ∧
      (attempt guide w.progress ["quest", "hunt"]).progress = w.progress := by
  intro guide here first second v w
  have hquests : ∀ fields ∈ first, isQuest fields = true := by decide
  have hperm : first.Perm second := by decide
  obtain ⟨horder, hagain⟩ := order_of_hand_ins_does_not_matter guide here
  obtain ⟨hv, hw, honce, hsame, hprogress⟩ := horder first second hquests hperm
  obtain ⟨hverdict, hstill⟩ := hagain second ["quest", "hunt"] (by decide) rfl
  exact ⟨hquests, hperm, by decide +kernel, by decide +kernel, rfl, hv, hw, honce,
    hsame, hprogress, hverdict, hstill⟩

end Walkthrough

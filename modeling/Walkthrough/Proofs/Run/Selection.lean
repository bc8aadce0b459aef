import Walkthrough.Proofs.Travel.Rules

/-!
# Which gems a hand-in picks

The loops that pick gems look at offers, sides and wanted gems in turn, and what is picked changes
what is picked later. Here the choice is said at once: all candidates are listed, and of each gem
that is not held yet the first candidate is chosen.

* `Candidate`, `candidates` — what the offers have for a build, in the order of the loops;
* `firstOfEach` — the candidates that come first for their gem, with `firstOfEach_cons` and
  `firstOfEach_append`;
* `collectFor_eq_choose` — the loops choose just these;
* `Chosen` — what is chosen, and that nothing is left out;
* `hand_in_picks_first_candidates` — what becomes of the hand-in of a quest.
-/

namespace Walkthrough

open Walkthrough.Text (Letters)

/-! ## Candidates -/

/-- A wanted gem on one side of an offer. -/
structure Candidate where
  offer : Offer
  side : Side
  gem : WantedGem

/-- The reward that a candidate stands for. -/
def Candidate.reward (c : Candidate) : Reward where
  side := c.side
  gem := c.gem.id
  npc := c.offer.npc
  note := if c.gem.note = [] then none else some c.gem.note

/-- The gems of candidates. -/
def gemsOf (cs : List Candidate) : List Letters := cs.map fun c => c.gem.id

theorem gemsOf_cons (c : Candidate) (cs : List Candidate) :
    gemsOf (c :: cs) = c.gem.id :: gemsOf cs := rfl

theorem gemsOf_append (cs ds : List Candidate) : gemsOf (cs ++ ds) = gemsOf cs ++ gemsOf ds :=
  List.map_append

/-- The candidates among wanted gems that one side of an offer has: the gem is there for everyone,
or for the class. -/
def candidatesOn (characterClass : Letters) (offer : Offer) (side : Side)
    (gems : List WantedGem) : List Candidate :=
  (gems.filter fun gem => ((offer.side side).get? gem.id).any fun classes =>
    classes.isEmpty || classes.contains characterClass).map fun gem => ⟨offer, side, gem⟩

/-- All candidates: offer by offer, first those on the quest side and then those for sale, as the
build lists its gems. Without a build there are none. -/
def candidates (build : Option Build) (offers : List Offer) : List Candidate :=
  build.toList.flatMap fun build => offers.flatMap fun offer =>
    [Side.quest, Side.vendor].flatMap fun side =>
      candidatesOn build.characterClass offer side build.gems

/-! ## The first of each -/

/-- The gem of a candidate at a position is not held, and no earlier candidate is for it. -/
def ComesFirst (held : IdSet) (cs : List Candidate) (c : Candidate) (position : Nat) : Prop :=
  c.gem.id ∉ held ∧ c.gem.id ∉ gemsOf (cs.take position)

instance (held : IdSet) (cs : List Candidate) (c : Candidate) (position : Nat) :
    Decidable (ComesFirst held cs c position) :=
  inferInstanceAs (Decidable (_ ∧ _))

/-- The candidates that come first for a gem that is not held, in order. -/
def firstOfEach (held : IdSet) (cs : List Candidate) : List Candidate :=
  (cs.zipIdx.filter fun (c, position) => ComesFirst held cs c position).map Prod.fst

variable {held : IdSet} {cs : List Candidate} {c : Candidate}

theorem comesFirst_zero : ComesFirst held cs c 0 ↔ c.gem.id ∉ held :=
  and_iff_left List.not_mem_nil

/-- For the candidates behind the first, it is as if its gem were held already. -/
theorem comesFirst_succ {d : Candidate} {position : Nat} :
    ComesFirst held (c :: cs) d (position + 1) ↔
      ComesFirst (held.insert c.gem.id) cs d position := by
  unfold ComesFirst gemsOf
  rw [List.take_succ_cons, List.map_cons, List.mem_cons, IdSet.mem_insert, not_or, not_or,
    and_left_comm, and_assoc]

/-- The recursion of the choice: the first candidate is chosen if its gem is not held, and then the
gem is. -/
theorem firstOfEach_cons (held : IdSet) (c : Candidate) (cs : List Candidate) :
    firstOfEach held (c :: cs) =
      if c.gem.id ∈ held then firstOfEach held cs
      else c :: firstOfEach (held.insert c.gem.id) cs := by
  have hbehind : ((cs.zipIdx.map (Prod.map id (· + 1))).filter fun (d, position) =>
        ComesFirst held (c :: cs) d position).map Prod.fst =
      firstOfEach (held.insert c.gem.id) cs := by
    unfold firstOfEach
    rw [List.filter_map, List.map_map]
    congr 1
    apply List.filter_congr
    rintro ⟨d, position⟩ -
    exact decide_eq_decide.mpr comesFirst_succ
  rw [firstOfEach, List.zipIdx_cons', List.filter_cons]
  by_cases hheld : c.gem.id ∈ held
  · rw [if_pos hheld, if_neg (by simpa [comesFirst_zero] using hheld), hbehind,
      IdSet.insert_of_mem hheld]
  · rw [if_neg hheld, if_pos (by simpa [comesFirst_zero] using hheld), List.map_cons, hbehind]

theorem firstOfEach_append (held : IdSet) (cs ds : List Candidate) :
    firstOfEach held (cs ++ ds) =
      firstOfEach held cs ++ firstOfEach (held.insertAll (gemsOf (firstOfEach held cs))) ds := by
  induction cs generalizing held with
  | nil => rfl
  | cons c cs ih =>
      rw [List.cons_append, firstOfEach_cons, firstOfEach_cons]
      by_cases hheld : c.gem.id ∈ held
      · rw [if_pos hheld, if_pos hheld, ih]
      · rw [if_neg hheld, if_neg hheld, ih]
        rfl

/-- The first candidates are for the gems of all candidates that are not held. -/
theorem mem_gemsOf_firstOfEach {id : Letters} :
    id ∈ gemsOf (firstOfEach held cs) ↔ id ∈ gemsOf cs ∧ id ∉ held := by
  induction cs generalizing held with
  | nil => simp [firstOfEach, gemsOf]
  | cons c cs ih =>
      rw [firstOfEach_cons, gemsOf_cons, List.mem_cons]
      by_cases hheld : c.gem.id ∈ held
      · rw [if_pos hheld, ih]
        constructor
        · exact fun ⟨hmem, hnot⟩ => ⟨.inr hmem, hnot⟩
        · rintro ⟨rfl | hmem, hnot⟩
          · exact absurd hheld hnot
          · exact ⟨hmem, hnot⟩
      · rw [if_neg hheld, gemsOf_cons, List.mem_cons, ih, IdSet.mem_insert, not_or]
        constructor
        · rintro (rfl | ⟨hmem, -, hnot⟩)
          · exact ⟨.inl rfl, hheld⟩
          · exact ⟨.inr hmem, hnot⟩
        · rintro ⟨hmem, hnot⟩
          by_cases heq : id = c.gem.id
          · exact .inl heq
          · exact .inr ⟨hmem.resolve_left heq, heq, hnot⟩

/-! ## The loops -/

/-- What the first candidates yield: their rewards, and the gems held afterwards. -/
def choose (held : IdSet) (cs : List Candidate) : List Reward × IdSet :=
  ((firstOfEach held cs).map Candidate.reward, held.insertAll (gemsOf (firstOfEach held cs)))

theorem choose_cons (held : IdSet) (c : Candidate) (cs : List Candidate) :
    choose held (c :: cs) =
      if c.gem.id ∈ held then choose held cs
      else (c.reward :: (choose (held.insert c.gem.id) cs).1,
        (choose (held.insert c.gem.id) cs).2) := by
  unfold choose
  rw [firstOfEach_cons]
  by_cases hheld : c.gem.id ∈ held
  · rw [if_pos hheld, if_pos hheld]
  · rw [if_neg hheld, if_neg hheld]
    rfl

theorem choose_append (held : IdSet) (cs ds : List Candidate) :
    choose held (cs ++ ds) =
      ((choose held cs).1 ++ (choose (choose held cs).2 ds).1,
        (choose (choose held cs).2 ds).2) := by
  unfold choose
  rw [firstOfEach_append, List.map_append, gemsOf_append, IdSet.insertAll_append]

theorem candidatesOn_cons (characterClass : Letters) (offer : Offer) (side : Side)
    (gem : WantedGem) (gems : List WantedGem) :
    candidatesOn characterClass offer side (gem :: gems) =
      if Reward.isOffered characterClass offer side gem then
        ⟨offer, side, gem⟩ :: candidatesOn characterClass offer side gems
      else candidatesOn characterClass offer side gems := by
  have hoffered : (((offer.side side).get? gem.id).any fun classes =>
      classes.isEmpty || classes.contains characterClass) =
        Reward.isOffered characterClass offer side gem := by
    unfold Reward.isOffered
    cases (offer.side side).get? gem.id <;> rfl
  rw [candidatesOn, List.filter_cons, hoffered]
  by_cases h : Reward.isOffered characterClass offer side gem = true
  · rw [if_pos h, if_pos h]
    rfl
  · rw [if_neg h, if_neg h]
    rfl

theorem collectSide_eq_choose (characterClass : Letters) (offer : Offer) (side : Side)
    (gems : List WantedGem) (held : IdSet) :
    Reward.collectSide characterClass offer side gems held =
      choose held (candidatesOn characterClass offer side gems) := by
  induction gems generalizing held with
  | nil => rfl
  | cons gem gems ih =>
      rw [Reward.collectSide, candidatesOn_cons, ih, ih]
      by_cases hoffered : Reward.isOffered characterClass offer side gem = true
      · rw [if_pos hoffered, choose_cons]
        by_cases hheld : gem.id ∈ held
        · rw [if_neg fun h => h.1 hheld, if_pos hheld]
        · rw [if_pos ⟨hheld, hoffered⟩, if_neg hheld]
          simp [Reward.ofGem, Candidate.reward]
      · rw [if_neg hoffered, if_neg fun h => hoffered h.2]

theorem collect_eq_choose (build : Build) (offers : List Offer) (held : IdSet) :
    Reward.collect build offers held = choose held (candidates (some build) offers) := by
  induction offers generalizing held with
  | nil => rfl
  | cons offer offers ih =>
      have hcandidates : candidates (some build) (offer :: offers) =
          candidatesOn build.characterClass offer .quest build.gems ++
            candidatesOn build.characterClass offer .vendor build.gems ++
              candidates (some build) offers := by
        simp [candidates]
      rw [hcandidates, choose_append, choose_append, ← ih, ← collectSide_eq_choose,
        ← collectSide_eq_choose]
      rfl

theorem collectFor_eq_choose (build : Option Build) (offers : List Offer) (held : IdSet) :
    Reward.collectFor build offers held = choose held (candidates build offers) := by
  cases build with
  | none => rfl
  | some build => exact collect_eq_choose build offers held

/-! ## The choice -/

/-- What is chosen of candidates when some gems are held: the rewards, and the gems held after. -/
structure Chosen (held : IdSet) (cs : List Candidate) (rewards : List Reward) (after : IdSet) :
    Prop where
  /-- The rewards are those of the first candidates, in order. -/
  first : rewards = (firstOfEach held cs).map Candidate.reward
  /-- No two are for one gem. -/
  once : (rewards.map Reward.gem).Nodup
  /-- There is one for each gem among the candidates that was missing. -/
  missing : ∀ id, id ∈ rewards.map Reward.gem ↔ id ∈ gemsOf cs ∧ id ∉ held
  /-- The gems grow by those of the rewards and no more. -/
  grown : ∀ id, id ∈ after ↔ id ∈ held ∨ id ∈ rewards.map Reward.gem
  /-- No gem of a candidate is left out. -/
  complete : ∀ id ∈ gemsOf cs, id ∈ after

theorem map_gem_reward (cs : List Candidate) :
    (cs.map Candidate.reward).map Reward.gem = gemsOf cs :=
  List.map_map

theorem nodup_gemsOf_firstOfEach (held : IdSet) (cs : List Candidate) :
    (gemsOf (firstOfEach held cs)).Nodup := by
  induction cs generalizing held with
  | nil => exact .nil
  | cons c cs ih =>
      rw [firstOfEach_cons]
      by_cases hheld : c.gem.id ∈ held
      · rw [if_pos hheld]
        exact ih held
      · rw [if_neg hheld, gemsOf_cons, List.nodup_cons]
        refine ⟨fun hmem => ?_, ih _⟩
        exact (mem_gemsOf_firstOfEach.mp hmem).2 (IdSet.mem_insert.mpr (.inl rfl))

theorem chosen_choose (held : IdSet) (cs : List Candidate) :
    Chosen held cs (choose held cs).1 (choose held cs).2 where
  first := rfl
  once := by
    rw [choose, map_gem_reward]
    exact nodup_gemsOf_firstOfEach held cs
  missing := fun id => by
    rw [choose, map_gem_reward]
    exact mem_gemsOf_firstOfEach
  grown := fun id => by
    rw [choose, map_gem_reward, IdSet.mem_insertAll, or_comm]
  complete := fun id hid => by
    rw [choose, IdSet.mem_insertAll, mem_gemsOf_firstOfEach]
    by_cases hheld : id ∈ held
    · exact .inr hheld
    · exact .inl ⟨hid, hheld⟩

/-- The choice is determined by the candidates and the gems held before. -/
theorem Chosen.eq_choose {rewards : List Reward} {after : IdSet}
    (h : Chosen held cs rewards after) : choose held cs = (rewards, after) := by
  rw [choose, ← h.first, ← map_gem_reward, ← h.first]
  exact congrArg _ (IdSet.ext fun id => by rw [h.grown, IdSet.mem_insertAll, or_comm])

/-! ## Hand-ins -/

/-- The fields of a hand-in name positions of offers, in order, and these are the offers to
consider; without a position it is all of them. -/
structure Considers (quest : Quest) (fields : List String) (positions : List Nat)
    (offers : List Offer) : Prop where
  read : fields.map Number.readWhole? = positions.map fun n : Nat => some (n : Int)
  inRange : ∀ n ∈ positions, n < quest.offers.length
  named : positions ≠ [] → positions.map (fun n => quest.offers[n]?) = offers.map some
  all : positions = [] → offers = quest.offers

/-- Positions are read off the fields one by one, and each must be in range. -/
theorem offerPositions?_eq_some_iff {count : Nat} {fields : List String} {positions : List Nat} :
    offerPositions? count fields = some positions ↔
      fields.map Number.readWhole? = positions.map (fun n : Nat => some (n : Int)) ∧
        ∀ n ∈ positions, n < count := by
  induction fields generalizing positions with
  | nil => cases positions <;> simp [offerPositions?]
  | cons field fields ih =>
      rw [offerPositions?, List.map_cons]
      cases hread : Number.readWhole? field with
      | none => cases positions <;> simp
      | some n =>
          constructor
          · intro h
            by_cases hrange : 0 ≤ n ∧ n < count
            · simp only [if_pos hrange, Option.map_eq_some_iff] at h
              obtain ⟨rest, hrest, rfl⟩ := h
              obtain ⟨hfields, hall⟩ := ih.mp hrest
              rw [List.map_cons, hfields, List.forall_mem_cons, Int.toNat_of_nonneg hrange.1]
              exact ⟨rfl, by omega, hall⟩
            · simp only [if_neg hrange] at h
              cases h
          · rintro ⟨hfields, hall⟩
            cases positions with
            | nil => cases hfields
            | cons m positions =>
                obtain ⟨hn, hrest⟩ := List.cons.inj hfields
                obtain ⟨hm, hrange⟩ := List.forall_mem_cons.mp hall
                cases hn
                simp only [if_pos (show 0 ≤ (m : Int) ∧ (m : Int) < count by omega),
                  ih.mpr ⟨hrest, hrange⟩]
                rfl

/-- At positions in range the offers are all there. -/
theorem Quest.map_getElem?_eq_iff {quest : Quest} {positions : List Nat} {offers : List Offer}
    (h : ∀ n ∈ positions, n < quest.offers.length) :
    positions.map (fun n => quest.offers[n]?) = offers.map some ↔
      offers = positions.filterMap fun n => quest.offers[n]? := by
  induction positions generalizing offers with
  | nil => cases offers <;> simp
  | cons n positions ih =>
      obtain ⟨hn, hrest⟩ := List.forall_mem_cons.mp h
      rw [List.map_cons, List.filterMap_cons_some (List.getElem?_eq_getElem hn)]
      cases offers with
      | nil => simp
      | cons offer offers =>
        rw [List.map_cons, List.cons_eq_cons, List.cons_eq_cons, ih hrest]
        simp [List.getElem?_eq_getElem hn, eq_comm]

theorem considers_iff {quest : Quest} {fields : List String} {positions : List Nat}
    {offers : List Offer} :
    Considers quest fields positions offers ↔
      offerPositions? quest.offers.length fields = some positions ∧
        offers = quest.considered positions := by
  rw [offerPositions?_eq_some_iff, Quest.considered]
  constructor
  · rintro ⟨hread, hrange, hnamed, hall⟩
    refine ⟨⟨hread, hrange⟩, ?_⟩
    cases positions with
    | nil => exact hall rfl
    | cons n positions => exact (Quest.map_getElem?_eq_iff hrange).mp (hnamed nofun)
  · rintro ⟨⟨hread, hrange⟩, rfl⟩
    refine ⟨hread, hrange, fun hsome => ?_, fun hnone => ?_⟩
    · rw [Quest.map_getElem?_eq_iff hrange, List.isEmpty_eq_false_iff.mpr hsome]
      rfl
    · rw [hnone]
      rfl

variable {guide : Guide} {here after : Progress} {done : Accepted}

theorem Does.exists_quest {key : String} {fields : List String}
    (h : Does guide here ("quest" :: key :: fields) done after) :
    ∃ quest positions offers, guide.world.quest? key = some quest ∧
      Considers quest fields positions offers ∧
      done = ⟨.quest quest.id positions, (choose here.gems (candidates guide.build offers)).1⟩ ∧
      after = { here with gems := (choose here.gems (candidates guide.build offers)).2 } := by
  generalize hgroup : "quest" :: key :: fields = group at h
  cases h with
  | quest hquest hpositions =>
      cases hgroup
      rw [collectFor_eq_choose]
      exact ⟨_, _, _, hquest, considers_iff.mpr ⟨hpositions, rfl⟩, rfl, rfl⟩
  | _ => simp at hgroup

/-- A hand-in is accepted just if the quest exists and every field behind it names a position of an
offer. It shows these positions, and it chooses from the candidates that the considered offers have
for the build: the first one for each gem that was missing. Nothing else about the progress
changes. -/
theorem hand_in_picks_first_candidates (guide : Guide) (here : Progress) (key : String)
    (fields : List String) (done : Accepted) (after : Progress) :
    attempt guide here ("quest" :: key :: fields) = .ok done after ↔
      ∃ quest positions offers, guide.world.quest? key = some quest ∧
        Considers quest fields positions offers ∧
        done.action = .quest quest.id positions ∧
        Chosen here.gems (candidates guide.build offers) done.rewards after.gems ∧
        after = { here with gems := after.gems } := by
  rw [attempt_eq_ok_iff]
  constructor
  · intro h
    obtain ⟨quest, positions, offers, hquest, hconsiders, rfl, rfl⟩ := h.exists_quest
    exact ⟨quest, positions, offers, hquest, hconsiders, rfl, chosen_choose _ _, rfl⟩
  · rintro ⟨quest, positions, offers, hquest, hconsiders, haction, hchosen, hafter⟩
    obtain ⟨hpositions, rfl⟩ := considers_iff.mp hconsiders
    have hdoes : Does guide here ("quest" :: key :: fields) _ _ := .quest hquest hpositions
    rw [collectFor_eq_choose, hchosen.eq_choose, ← haction, ← hafter] at hdoes
    exact hdoes

end Walkthrough

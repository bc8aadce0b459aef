import Walkthrough.Build
import Walkthrough.Route.Action
import Walkthrough.Travel.IdSet

/-!
# Picking up gems

When a quest is handed in, the build picks the gems it still wants from the offers of the quest. A
gem is picked once: what was picked before, or just now from an earlier offer, is not picked again.

* `Reward.ofGem` — the reward for one wanted gem on one side of an offer.
* `Reward.collectSide` — the rewards from one side of an offer, and the gems held afterwards.
* `Reward.collect` — the rewards from several offers: of each, the quest side comes first.
* `Reward.collectFor` — the same for a build that there may be, or not.
-/

namespace Walkthrough

open Walkthrough.Text (Letters)

/-- The gems on one side of an offer. -/
def Offer.side (offer : Offer) : Side → Table Letters (List Letters)
  | .quest => offer.quest
  | .vendor => offer.vendor

/-- Whether gems that are offered to some classes are offered to a class. -/
def offeredTo (classes : List Letters) (characterClass : Letters) : Bool :=
  classes.isEmpty || classes.contains characterClass

namespace Reward

/-- Whether one side of an offer has a gem for a class. -/
def isOffered (characterClass : Letters) (offer : Offer) (side : Side) (gem : WantedGem) : Bool :=
  match (offer.side side).get? gem.id with
  | none => false
  | some classes => offeredTo classes characterClass

/-- The reward for a wanted gem. An empty note is no note. -/
def ofGem (offer : Offer) (side : Side) (gem : WantedGem) : Reward :=
  ⟨side, gem.id, offer.npc, if gem.note.isEmpty then none else some gem.note⟩

/-- The rewards that one side of an offer has for wanted gems, and the gems held afterwards. -/
def collectSide (characterClass : Letters) (offer : Offer) (side : Side) :
    List WantedGem → IdSet → List Reward × IdSet
  | [], held => ([], held)
  | gem :: gems, held =>
    if gem.id ∉ held ∧ isOffered characterClass offer side gem then
      let (rewards, after) := collectSide characterClass offer side gems (held.insert gem.id)
      (ofGem offer side gem :: rewards, after)
    else collectSide characterClass offer side gems held

/-- The rewards that offers have for a build, and the gems held afterwards. -/
def collect (build : Build) : List Offer → IdSet → List Reward × IdSet
  | [], held => ([], held)
  | offer :: offers, held =>
    let (fromQuest, held₁) := collectSide build.characterClass offer .quest build.gems held
    let (fromVendor, held₂) := collectSide build.characterClass offer .vendor build.gems held₁
    let (rest, after) := collect build offers held₂
    (fromQuest ++ fromVendor ++ rest, after)

/-- The rewards that offers have for whoever plays; without a build nothing is picked. -/
def collectFor (build : Option Build) (offers : List Offer) (held : IdSet) :
    List Reward × IdSet :=
  match build with
  | none => ([], held)
  | some build => collect build offers held

end Reward

end Walkthrough

import Walkthrough.Travel.Attempt

/-!
# Following a line

The tokens of a line are followed from left to right. Literals stay where they are, an accepted
group leaves its action in its place, and a refused group leaves nothing but a diagnostic. The gems
to pick up come after the line.

* `Trail` — what following some tokens yields.
* `follow` — following the tokens of a line.
* `Trail.steps` — the steps of the line: the line itself, if it shows anything, and the gems.
-/

namespace Walkthrough

structure Trail where
  /-- What the line shows. -/
  parts : List Part
  /-- The gems to pick up after the line. -/
  rewards : List Reward
  /-- The groups that were refused, each with its cause. -/
  refusals : List (List String × Refusal)
  progress : Progress

namespace Trail

def still (progress : Progress) : Trail := ⟨[], [], [], progress⟩

def afterLiteral (text : String) (trail : Trail) : Trail :=
  { trail with parts := .text text :: trail.parts }

def afterAccepted (accepted : Accepted) (trail : Trail) : Trail :=
  { trail with
    parts := .action accepted.action :: trail.parts
    rewards := accepted.rewards ++ trail.rewards }

def afterRefused (fields : List String) (cause : Refusal) (trail : Trail) : Trail :=
  { trail with refusals := (fields, cause) :: trail.refusals }

end Trail

def follow (guide : Guide) (here : Progress) : List Token → Trail
  | [] => .still here
  | .literal text :: tokens => (follow guide here tokens).afterLiteral text
  | .group fields :: tokens =>
    match attempt guide here fields with
    | .ok accepted after => (follow guide after tokens).afterAccepted accepted
    | .error cause after => (follow guide after tokens).afterRefused fields cause

/-- Whether a part shows anything: a text does if it is not blank, an action always does. -/
def Part.isShown : Part → Bool
  | .text words => !Text.allBlank words.toList
  | .action _ => true

/-- Whether a line shows anything. -/
def hasContent (parts : List Part) : Bool := parts.any Part.isShown

def Trail.steps (trail : Trail) : List Step :=
  (if hasContent trail.parts then [.line trail.parts] else []) ++ trail.rewards.map .reward

def followLine (guide : Guide) (here : Progress) (line : String) : Trail :=
  follow guide here (Token.scan line)

end Walkthrough

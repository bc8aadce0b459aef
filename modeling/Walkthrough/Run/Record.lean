import Walkthrough.Run.Compile

/-!
# Keeping the records of a run

While documents are compiled, records are kept. Every diagnostic is written to the log as soon as it
arises, and if somebody collects diagnostics it goes to their list as well. The progress is part of
the records: a group that is attempted leaves it as it is then.

* `Records` — the progress, the log and the list, if there is one.
* `report` — one diagnostic is written down.
* `recordLine`, `recordDocument` — a line and a document, on records that go from one to the next.
* `recordRun` — all documents, and then what was left undone.
-/

namespace Walkthrough

/-- What is kept of a run while it goes on. -/
structure Records where
  progress : Progress
  log : List LogLine
  /-- The diagnostics so far, if somebody collects them. -/
  collected : Option (List Diagnostic)

/-- The diagnostics that somebody has collected. -/
def Records.diagnostics (records : Records) : List Diagnostic := records.collected.getD []

/-- Programs that go on with the records of a run. -/
abbrev Recorder := StateM Records

def report (diagnostic : Diagnostic) : Recorder Unit := do
  modify fun records => { records with log := records.log ++ [diagnostic.logLine] }
  modify fun records => { records with collected := records.collected.map (· ++ [diagnostic]) }

variable (guide : Guide)

/-- A group is attempted. If it is refused, that is reported, and nothing else comes of it. -/
def recordGroup (fields : List String) : Recorder (Option Accepted) := do
  let records ← get
  match attempt guide records.progress fields with
  | .ok done after =>
    set { records with progress := after }
    return some done
  | .error cause after =>
    set { records with progress := after }
    report (.refused fields cause)
    return none

/-- A line while its tokens are followed. -/
structure Draft where
  /-- What the line shows so far. -/
  parts : List Part
  /-- The gems to pick up after it. -/
  rewards : List Reward

def recordToken (draft : Draft) : Token → Recorder Draft
  | .literal text => return { draft with parts := draft.parts ++ [.text text] }
  | .group fields => do
    match ← recordGroup guide fields with
    | none => return draft
    | some done =>
      return ⟨draft.parts ++ [.action done.action], draft.rewards ++ done.rewards⟩

/-- A line comes to the end of a route: the line itself, if it shows anything, and the gems. A blank
one is passed over. -/
def recordLine (route : Route) (line : String) : Recorder Route := do
  if Text.allBlank line.toList then
    return route
  let draft ← (Token.scan line).foldlM (recordToken guide) ⟨[], []⟩
  let shown := if hasContent draft.parts then route ++ [.line draft.parts] else route
  return shown ++ draft.rewards.map .reward

def recordDocument (document : String) : Recorder Route :=
  (Text.lines document).foldlM (recordLine guide) []

/-- The documents are compiled in turn, each to a route, and what was left undone is reported. -/
def recordRun (documents : List String) : Recorder (List Route) := do
  let routes ← documents.mapM (recordDocument guide)
  let records ← get
  (findings guide.world records.progress).forM fun finding => report (.found finding)
  return routes

end Walkthrough

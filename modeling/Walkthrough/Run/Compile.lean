import Walkthrough.Run.Line
import Walkthrough.Run.Log
import Walkthrough.Text.Lines

/-!
# Compiling documents

The documents of a walkthrough are compiled one after the other, line by line, along one progress.
Each becomes a route. At the end it is looked at what was left undone. Nothing stops a run: what is
wrong is reported, once as a diagnostic and once in the log.

* `compileDocument`, `compileDocuments` — the routes, the refused groups and the progress.
* `unusedWaypoints`, `missingCrafting` — what was left undone.
* `compile` — all of it.
* `Compilation.diagnostics`, `Compilation.log` — what is reported.
-/

namespace Walkthrough

structure Stretch where
  steps : List Step
  refusals : List (List String × Refusal)
  progress : Progress

/-- Compiling lines; blank ones are passed over. -/
def compileLines (guide : Guide) (here : Progress) : List String → Stretch
  | [] => ⟨[], [], here⟩
  | line :: lines =>
    if Text.allBlank line.toList then compileLines guide here lines
    else
      let trail := followLine guide here line
      let rest := compileLines guide trail.progress lines
      ⟨trail.steps ++ rest.steps, trail.refusals ++ rest.refusals, rest.progress⟩

def compileDocument (guide : Guide) (here : Progress) (document : String) : Stretch :=
  compileLines guide here (Text.lines document)

structure Journey where
  /-- One route for each document. -/
  routes : List Route
  refusals : List (List String × Refusal)
  progress : Progress

def compileDocuments (guide : Guide) (here : Progress) : List String → Journey
  | [] => ⟨[], [], here⟩
  | document :: documents =>
    let stretch := compileDocument guide here document
    let rest := compileDocuments guide stretch.progress documents
    ⟨stretch.steps :: rest.routes, stretch.refusals ++ rest.refusals, rest.progress⟩

/-! ## What was left undone -/

/-- The waypoints that were picked up in vain, in the order of their ids. -/
def unusedWaypoints (progress : Progress) : List Finding :=
  progress.unused.toList.map .unusedWaypoint

/-- The areas whose recipes were never picked up, in the order of the table. -/
def missingCrafting (world : World) (progress : Progress) : List Finding :=
  (world.craftingAreas.filter fun area => area.id ∉ progress.crafted).map fun area =>
    .missingCrafting area.id area.recipes

def findings (world : World) (progress : Progress) : List Finding :=
  unusedWaypoints progress ++ missingCrafting world progress

/-! ## Compiling -/

structure Compilation where
  routes : List Route
  refusals : List (List String × Refusal)
  findings : List Finding
  progress : Progress

def compile (guide : Guide) (here : Progress) (documents : List String) : Compilation :=
  let journey := compileDocuments guide here documents
  ⟨journey.routes, journey.refusals, findings guide.world journey.progress, journey.progress⟩

/-- What a refused group is reported as. -/
def refusedDiagnostics (refusals : List (List String × Refusal)) : List Diagnostic :=
  refusals.map fun (fields, cause) => .refused fields cause

/-- What is reported to the author: the refused groups in turn, and then what was left undone. -/
def Compilation.diagnostics (c : Compilation) : List Diagnostic :=
  refusedDiagnostics c.refusals ++ c.findings.map .found

/-- The line of the log for a diagnostic: a refused group is a warning. -/
def Diagnostic.logLine (diagnostic : Diagnostic) : LogLine :=
  match diagnostic with
  | .refused _ _ =>
    ⟨.warning, .compiler, diagnostic.message ++ ": " ++ diagnostic.groupText⟩
  | .found _ => ⟨.info, .compiler, diagnostic.message⟩

def Compilation.log (c : Compilation) : List LogLine := c.diagnostics.map Diagnostic.logLine

end Walkthrough

import Walkthrough.Command.Run
import Walkthrough.Proofs.Text.Newline

/-!
# Documents with any line ends

A command unifies the line ends of a document where it reads its file, and then the document is
split into lines, at any line end again. The first of these treatments could as well be left out:
what a command compiles comes to what the texts come to that the bytes of the files encode, with the
line ends as they are.

* `decodedText`, `decodedTexts` — documents with their line ends as they are in the files;
* `readDocuments_eq_map` — the documents of a command are these, with line feeds;
* `recordRun_withLineFeeds` — a run does not tell the two apart;
* `any_line_end_will_do` — what lines are, and that a command may be fed with any line ends.
-/

namespace Walkthrough

open Walkthrough.Text

/-! ## Runs -/

theorem recordDocument_withLineFeeds (guide : Guide) (document : String) :
    recordDocument guide (withLineFeeds document) = recordDocument guide document := by
  rw [recordDocument, recordDocument, lines_withLineFeeds]

/-- Line feeds in the place of other line ends change nothing about a run, whatever its records. -/
theorem recordRun_withLineFeeds (guide : Guide) (documents : List String) :
    recordRun guide (documents.map withLineFeeds) = recordRun guide documents := by
  have hdocument : recordDocument guide ∘ withLineFeeds = recordDocument guide :=
    funext (recordDocument_withLineFeeds guide)
  rw [recordRun, recordRun, List.mapM_map, hdocument]

/-! ## Files -/

namespace Command

variable (disk : Disk)

/-- The text that the bytes of a file encode, with its line ends as they are. -/
def decodedText (path : Path) : Except DocumentError String :=
  match disk.read path with
  | .error error => .error (.file error)
  | .ok bytes => ((Utf8.decode bytes).mapError .encoding).map String.ofList

/-- The texts of several files; the first that has none ends the reading. -/
def decodedTexts (paths : List Path) : Except Failure (List String) :=
  paths.mapM fun path => (decodedText disk path).mapError .document

theorem readDocument_eq_map (path : Path) :
    readDocument disk path = (decodedText disk path).map withLineFeeds := by
  rw [readDocument, readText, decodedText]
  cases disk.read path with
  | error error => rfl
  | ok bytes =>
      cases hdecode : Utf8.decode bytes with
      | error fault =>
          simp only [hdecode]
          rfl
      | ok cs =>
          simp only [hdecode]
          show Except.ok _ = Except.ok (withLineFeeds (String.ofList cs))
          rw [withLineFeeds_eq, String.toList_ofList]

/-- The documents that a command reads are the texts of the files with line feeds. Where a file has
no text, both fail alike. -/
theorem readDocuments_eq_map (paths : List Path) :
    readDocuments disk paths = (decodedTexts disk paths).map (List.map withLineFeeds) := by
  induction paths with
  | nil => rfl
  | cons path paths ih =>
      rw [readDocuments, readDocument_eq_map, ih, decodedTexts, decodedTexts, List.mapM_cons]
      cases decodedText disk path with
      | error error => rfl
      | ok text =>
          cases List.mapM (fun path => (decodedText disk path).mapError Failure.document) paths with
          | error failure => rfl
          | ok texts => rfl

/-- It does not matter how the lines of a text end. They hold no character that ends lines; joined
by line feeds they are the text with every pair of a carriage return and a line feed, and every
other carriage return, replaced by a line feed; and there is one more of them than there are line
ends, where a pair counts once. So the text with line feeds has the same lines, and a run cannot
tell it from the text itself. What a command reads from files are such texts with line feeds, or it
fails as their decoding does; so what it compiles comes to the same routes and records as the texts
that the bytes encode. -/
theorem any_line_end_will_do :
    (∀ document : String,
      (∀ line ∈ lines document, '\r' ∉ line.toList ∧ '\n' ∉ line.toList) ∧
      "\n".intercalate (lines document) = withLineFeeds document ∧
      (lines document).length + pairs document.toList =
        document.toList.count '\r' + document.toList.count '\n' + 1 ∧
      lines (withLineFeeds document) = lines document) ∧
    (∀ (guide : Guide) (documents : List String),
      recordRun guide (documents.map withLineFeeds) = recordRun guide documents) ∧
    (∀ (disk : Disk) (paths : List Path),
      readDocuments disk paths = (decodedTexts disk paths).map (List.map withLineFeeds)) ∧
    ∀ (settings : Settings) (disk : Disk) (options : Options) (world : World),
      (loadRest settings.nesting disk options world).map (compileMaterial settings) = do
        let build ← readBuild settings.nesting disk options.build
        let texts ← decodedTexts disk options.documents
        return (recordRun (.of world build settings.labyrinth) texts).run
          ⟨settings.start none none, [], some []⟩ := by
  refine ⟨fun document => ⟨?_, intercalate_lines document, ?_, lines_withLineFeeds document⟩,
    recordRun_withLineFeeds, readDocuments_eq_map, ?_⟩
  · intro line hline
    exact not_mem_of_mem_splitLines (toList_of_mem_lines hline)
  · rw [lines, List.length_map]
    exact length_splitLines document.toList
  · intro settings disk options world
    rw [loadRest, readDocuments_eq_map]
    cases readBuild settings.nesting disk options.build with
    | error failure => rfl
    | ok build =>
        cases decodedTexts disk options.documents with
        | error failure => rfl
        | ok texts =>
            have hrun := recordRun_withLineFeeds (.of world build settings.labyrinth) texts
            show Except.ok ((recordRun _ _).run _) = Except.ok ((recordRun _ _).run _)
            rw [hrun]

end Command

end Walkthrough

import Walkthrough.Proofs.Files.Shelf
import Walkthrough.Proofs.Json.RoundTrip
import Walkthrough.Proofs.Text.Newline

/-!
# Texts that a file keeps

A text is written to a file as bytes, and where it is read its line ends are unified. So a file
keeps letters as they are if there is no half of a character among them, which has no bytes, and no
carriage return, which would come back as another line end. Written JSON is kept: it has no carriage
returns at all, since those in its texts are escaped.

* `Letters.IsKept` — whether a file keeps letters as they are;
* `Json.isKept_writeAt` — what is written for a value is kept;
* `Json.isText_of_shows` — what is written without halves holds none in its texts;
* `readDocument_of_file`, `readJson_write` — a document or a value that was written to a file is
  read from it.
-/

namespace Walkthrough

namespace Text

namespace Letters

/-- Whether a file keeps letters as they are: they are characters, and none is a carriage return. -/
def IsKept (letters : Letters) : Prop := ∀ letter ∈ letters, ∃ c, letter = .char c ∧ c ≠ '\r'

variable {a b letters : Letters} {c : Char} {cs : List Char}

@[simp] theorem isKept_nil : IsKept [] := nofun

@[simp] theorem isKept_append : IsKept (a ++ b) ↔ a.IsKept ∧ b.IsKept := List.forall_mem_append

@[simp] theorem isKept_cons : IsKept (.char c :: letters) ↔ c ≠ '\r' ∧ letters.IsKept :=
  List.forall_mem_cons.trans (and_congr_left' (by simp))

theorem isKept_map (h : '\r' ∉ cs) : IsKept (cs.map .char) :=
  List.forall_mem_map.mpr fun c hc => ⟨c, rfl, fun heq => h (heq ▸ hc)⟩

theorem IsBlank.isKept (h : letters.IsBlank) : letters.IsKept := by
  intro letter hletter
  rcases h letter hletter with rfl | rfl
  · exact ⟨_, rfl, by decide⟩
  · exact ⟨_, rfl, by decide⟩

theorem IsKept.isText (h : letters.IsKept) : letters.IsText := by
  intro letter hletter
  obtain ⟨c, rfl, -⟩ := h letter hletter
  rfl

theorem IsKept.unifyNewlines_spelled (h : letters.IsKept) :
    unifyNewlines letters.spelled = letters.spelled := by
  refine unifyNewlines_of_not_mem fun hreturn => ?_
  obtain ⟨letter, hletter, hshown⟩ := List.mem_flatMap.mp hreturn
  obtain ⟨c, rfl, hc⟩ := h letter hletter
  exact hc (List.mem_singleton.mp hshown).symm

end Letters

end Text

open Walkthrough.Text

namespace Json

variable {layout : Layout} {room : Nat} {json : Json}

theorem return_not_mem_escapeChar (c : Char) : '\r' ∉ escapeChar c := by
  have hdigits : ∀ n < 0x20, '\r' ∉ hexDigits 4 n := by decide
  rcases escapeChar_cases c with ⟨d, hwritten, -, hescaped⟩ | ⟨hwritten, hcontrol⟩ |
    ⟨hwritten, -, -, hcontrol⟩
  · have hd : '\r' ≠ d := by
      rintro rfl
      cases hescaped
    rw [hwritten]
    simp [hd]
  · rw [hwritten]
    simp [hdigits c.toNat hcontrol]
  · rw [hwritten, List.mem_singleton]
    rintro rfl
    exact absurd hcontrol (by decide)

theorem isKept_writeText {value : Letters} (h : value.IsText) : (writeText value).IsKept := by
  have hescaped : Letters.IsKept (value.flatMap escapeLetter) := by
    intro letter hletter
    obtain ⟨source, hsource, hwritten⟩ := List.mem_flatMap.mp hletter
    cases source with
    | char c => exact Letters.isKept_map (return_not_mem_escapeChar c) letter hwritten
    | half number => cases h _ hsource
  simp [writeText, hescaped]

theorem isKept_writeInt (n : Int) : (writeInt n).IsKept := by
  have hdigits : '\r' ∉ Nat.toDigits 10 n.natAbs := fun hmem =>
    absurd (Nat.isDigit_of_mem_toDigits (by decide) (by decide) hmem) (by decide)
  refine Letters.isKept_map ?_
  rw [List.mem_append, not_or]
  refine ⟨?_, hdigits⟩
  split
  · decide
  · exact List.not_mem_nil

theorem isKept_writeItems (hlayout : layout.IsBlank) {items : List Json}
    (hitems : ∀ item ∈ items, ∀ depth, (writeAt layout depth item).IsKept) (depth : Nat) :
    (writeItems layout depth items).IsKept := by
  have hbreak := (hlayout.lineBreak depth).isKept
  induction items with
  | nil => exact Letters.isKept_nil
  | cons item items ih =>
      obtain ⟨hitem, hitems⟩ := List.forall_mem_cons.mp hitems
      simp [writeItems, hbreak, hitem, ih hitems]

theorem Layout.IsBlank.isKept_colon (hlayout : layout.IsBlank) : layout.colon.IsKept := by
  obtain ⟨blanks, hcolon, hblanks⟩ := hlayout.colon
  simp [hcolon, hblanks.isKept]

theorem isKept_writeMembers (hlayout : layout.IsBlank) {members : Table Letters Json}
    (htexts : ∀ member ∈ members, member.1.IsText)
    (hmembers : ∀ member ∈ members, ∀ depth, (writeAt layout depth member.2).IsKept) (depth : Nat) :
    (writeMembers layout depth members).IsKept := by
  have hbreak := (hlayout.lineBreak depth).isKept
  induction members with
  | nil => exact Letters.isKept_nil
  | cons member members ih =>
      obtain ⟨key, value⟩ := member
      obtain ⟨htext, htexts⟩ := List.forall_mem_cons.mp htexts
      obtain ⟨hvalue, hmembers⟩ := List.forall_mem_cons.mp hmembers
      have hkey := isKept_writeText htext
      simp [writeMembers, hbreak, hkey, hlayout.isKept_colon, hvalue, ih htexts hmembers]

/-- What is written for a value is kept. -/
theorem isKept_writeAt (hlayout : layout.IsBlank) (h : json.Writable room) (depth : Nat) :
    (writeAt layout depth json).IsKept := by
  have hbreak (depth : Nat) := (hlayout.lineBreak depth).isKept
  induction h generalizing depth with
  | null => exact Letters.isKept_map (by decide)
  | @bool _ value =>
      cases value with
      | false => exact Letters.isKept_map (by decide)
      | true => exact Letters.isKept_map (by decide)
  | int => exact isKept_writeInt _
  | string hvalue => exact isKept_writeText hvalue
  | @array _ items _ ih =>
      cases items with
      | nil => exact Letters.isKept_map (by decide)
      | cons item items =>
          obtain ⟨hitem, hitems⟩ := List.forall_mem_cons.mp ih
          have hmore := isKept_writeItems hlayout hitems (depth + 1)
          simp [writeAt, hbreak, hitem, hmore]
  | @object _ members _ htexts _ ih =>
      cases members with
      | nil => exact Letters.isKept_map (by decide)
      | cons member members =>
          obtain ⟨key, value⟩ := member
          obtain ⟨htext, htexts⟩ := List.forall_mem_cons.mp htexts
          obtain ⟨hvalue, hvalues⟩ := List.forall_mem_cons.mp ih
          have hkey := isKept_writeText htext
          have hmore := isKept_writeMembers hlayout htexts hvalues (depth + 1)
          simp [writeAt, hbreak, hkey, hlayout.isKept_colon, hvalue, hmore]

/-- Whether letters are among the texts in a value, however deep they stand. -/
inductive Shows (name : Letters) : Json → Prop
  | string : Shows name (.string name)
  | item {items : List Json} {item : Json} (hitem : item ∈ items) (h : Shows name item) :
      Shows name (.array items)
  | member {members : List (Letters × Json)} {member : Letters × Json}
      (hmember : member ∈ members) (h : Shows name member.2) : Shows name (.object members)

theorem writeAt_subset_writeItems {items : List Json} {item : Json} (h : item ∈ items)
    (depth : Nat) : writeAt layout depth item ⊆ writeItems layout depth items := by
  induction items with
  | nil => exact absurd h List.not_mem_nil
  | cons first items ih =>
      intro letter hletter
      rw [writeItems]
      rcases List.mem_cons.mp h with rfl | hmem
      · simp [hletter]
      · simp [ih hmem hletter]

theorem writeAt_subset_writeMembers {members : List (Letters × Json)} {member : Letters × Json}
    (h : member ∈ members) (depth : Nat) :
    writeAt layout depth member.2 ⊆ writeMembers layout depth members := by
  induction members with
  | nil => exact absurd h List.not_mem_nil
  | cons first members ih =>
      intro letter hletter
      rw [writeMembers]
      rcases List.mem_cons.mp h with rfl | hmem
      · simp [hletter]
      · simp [ih hmem hletter]

/-- What is written for an item or a member is in what is written for the whole. -/
theorem writeAt_subset_array {items : List Json} {item : Json} (h : item ∈ items) (depth : Nat) :
    writeAt layout (depth + 1) item ⊆ writeAt layout depth (.array items) := by
  cases items with
  | nil => exact absurd h List.not_mem_nil
  | cons first items =>
      intro letter hletter
      rw [writeAt]
      rcases List.mem_cons.mp h with rfl | hmem
      · simp [hletter]
      · simp [writeAt_subset_writeItems hmem (depth + 1) hletter]

theorem writeAt_subset_object {members : List (Letters × Json)} {member : Letters × Json}
    (h : member ∈ members) (depth : Nat) :
    writeAt layout (depth + 1) member.2 ⊆ writeAt layout depth (.object members) := by
  cases members with
  | nil => exact absurd h List.not_mem_nil
  | cons first members =>
      intro letter hletter
      rw [writeAt]
      rcases List.mem_cons.mp h with rfl | hmem
      · simp [hletter]
      · simp [writeAt_subset_writeMembers hmem (depth + 1) hletter]

/-- A half of a character is written as it is, so what holds one among its texts is not written
without it. -/
theorem isText_of_shows {name : Letters} (h : json.Shows name) {depth : Nat}
    (htext : (writeAt layout depth json).IsText) : name.IsText := by
  induction h generalizing depth with
  | string =>
      intro letter hletter
      cases letter with
      | char c => rfl
      | half number =>
          refine htext (.half number) ?_
          have hwritten : .half number ∈ name.flatMap escapeLetter :=
            List.mem_flatMap.mpr ⟨_, hletter, List.mem_singleton_self _⟩
          simp [writeAt, writeText, hwritten]
  | item hitem _ ih =>
      exact ih fun letter hletter => htext letter (writeAt_subset_array hitem depth hletter)
  | member hmember _ ih =>
      exact ih fun letter hletter => htext letter (writeAt_subset_object hmember depth hletter)

end Json

/-! ## Files -/

section File

variable {disk : Disk} {path : Path}

/-- A document without carriage returns that was written to a file is read from the file. -/
theorem readDocument_of_file {text : String} (hfile : disk path = .file (Utf8.encode text))
    (hreturn : '\r' ∉ text.toList) : readDocument disk path = .ok text := by
  have hread : disk.read path = .ok (Utf8.encode text) := by rw [Disk.read, hfile]
  rw [readDocument, readText, hread]
  simp only [Utf8.decode_encode, unifyNewlines_of_not_mem hreturn]
  exact congrArg Except.ok String.ofList_toList

/-- A value that was written to a file, with any blanks after it, is read from the file. -/
theorem readJson_write {layout : Json.Layout} {nesting : Nat} {json : Json} {blanks : Letters}
    (hlayout : layout.IsBlank) (h : json.Writable nesting) (hblanks : blanks.IsBlank)
    (hfile : disk path = .file (Utf8.encode (Json.write layout json ++ blanks).shown)) :
    readJson nesting disk path = .ok json := by
  have hkept : (Json.write layout json ++ blanks).IsKept :=
    Letters.isKept_append.mpr ⟨Json.isKept_writeAt hlayout h 0, hblanks.isKept⟩
  have hread :
      Json.read nesting (unifyNewlines (Json.write layout json ++ blanks).spelled) = .ok json := by
    rw [hkept.unifyNewlines_spelled, Letters.spelled_append]
    exact Json.read_write hlayout h hblanks
  rw [← Letters.toList_shown] at hread
  exact readJson_of_holds ⟨_, _, hfile, Utf8.decode_encode _, hread⟩

end File

end Walkthrough

import Walkthrough.Proofs.Files.Folder
import Walkthrough.Settings

/-!
# The shelf over a history

A program asks for worlds again and again, while the files and the settings change around it as they
please. What is on the shelf under a folder is always the world that was read from its files last,
and nothing else is: a failed attempt, a world that was taken from the shelf, and attempts for other
folders leave it there. The folder of the tables that come with the program is one like any other.

* `Library` — the files, the settings and the shelf; `folderOf` — the folder that a call is for;
* `Library.History` — the calls of a program, with any changes between them;
* `LastRead` — the world that was read last, said by the calls alone;
* `Library.History.reflects` — the shelf holds just that, by one lemma for each kind of call;
* `the_shelf_holds_what_was_read_last` — what the next call does after any history.
-/

namespace Walkthrough

/-! ## One call -/

namespace Shelf

variable {shelf : Shelf} {nesting : Nat} {disk : Disk} {folder other : Path} {loaded : Loaded}

theorem get?_put (shelf : Shelf) (folder other : Path) (world : World) :
    (shelf.put folder world).get? other =
      if other = folder then some ⟨shelf.count, world⟩ else shelf.get? other := by
  have hkept (worlds : List (Path × Loaded)) (hne : other ≠ folder) :
      (worlds.filter fun entry => entry.1 != folder).lookup other = worlds.lookup other := by
    induction worlds with
    | nil => rfl
    | cons entry worlds ih =>
        obtain ⟨key, loaded⟩ := entry
        rw [List.filter_cons, List.lookup_cons]
        by_cases hkey : key = folder
        · have hother : (other == key) = false := by
            rw [hkey]
            exact beq_false_of_ne hne
          rw [hother, if_neg (by simp [hkey])]
          exact ih
        · rw [if_pos (by simpa using hkey), List.lookup_cons, ih]
  rw [put, get?, List.lookup_cons]
  by_cases hsame : other = folder
  · rw [if_pos hsame, beq_iff_eq.mpr hsame]
  · rw [if_neg hsame, beq_false_of_ne hsame]
    exact hkept shelf.worlds hsame

/-- A world that is on the shelf is taken from there, whatever is in the files. -/
theorem load_of_get? (h : shelf.get? folder = some loaded) (nesting : Nat) (disk : Disk) :
    shelf.load nesting disk folder true = ⟨.ok loaded, [], shelf⟩ := by
  rw [load, if_pos rfl, h]

/-- A call that may not take a world from the shelf, or does not find it there, reads the files. -/
theorem load_eq_reload {fromShelf : Bool} (h : fromShelf = false ∨ shelf.get? folder = none) :
    shelf.load nesting disk folder fromShelf = shelf.reload nesting disk folder := by
  rw [load]
  cases fromShelf with
  | false => rfl
  | true => rw [if_pos rfl, h.resolve_left Bool.noConfusion]

theorem reload_of_error {error : LoadError} (h : loadWorld nesting disk folder = .error error) :
    shelf.reload nesting disk folder = ⟨.error error, [], shelf⟩ := by
  rw [reload, h]

theorem reload_of_ok {world : World} (h : loadWorld nesting disk folder = .ok world) :
    shelf.reload nesting disk folder =
      ⟨.ok ⟨shelf.count, world⟩, loadLog folder world, shelf.put folder world⟩ := by
  rw [reload, h]

/-- Reading fails just with the fault of the folder that is told first. -/
theorem result_reload_eq_error_iff {error : LoadError} :
    (shelf.reload nesting disk folder).result = .error error ↔
      disk.FirstFault nesting folder error := by
  rw [← loadWorld_eq_error_iff]
  cases hload : loadWorld nesting disk folder with
  | error cause => simp [reload_of_error hload]
  | ok world => simp [reload_of_ok hload]

/-- Reading gives just the world that is in the folder. -/
theorem exists_result_reload_iff {world : World} :
    (∃ loaded, (shelf.reload nesting disk folder).result = .ok loaded ∧ loaded.world = world) ↔
      disk.HoldsWorld nesting folder world := by
  rw [← loadWorld_eq_ok_iff]
  cases hload : loadWorld nesting disk folder with
  | error cause => simp [reload_of_error hload]
  | ok world => simp [reload_of_ok hload]

theorem reload_of_result_eq_error {error : LoadError}
    (h : (shelf.reload nesting disk folder).result = .error error) :
    shelf.reload nesting disk folder = ⟨.error error, [], shelf⟩ :=
  reload_of_error (loadWorld_eq_error_iff.mpr (result_reload_eq_error_iff.mp h))

/-- A world that was read is new, and on the shelf. -/
theorem of_result_reload_eq_ok (h : (shelf.reload nesting disk folder).result = .ok loaded) :
    loaded.serial = shelf.count ∧
      (shelf.reload nesting disk folder).log = loadLog folder loaded.world ∧
      (shelf.reload nesting disk folder).shelf.get? folder = some loaded := by
  cases hload : loadWorld nesting disk folder with
  | error cause =>
      rw [reload_of_error hload] at h
      cases h
  | ok world =>
      rw [reload_of_ok hload] at h ⊢
      cases h
      refine ⟨rfl, rfl, ?_⟩
      rw [get?_put, if_pos rfl]

/-- A call leaves what is on the shelf under other folders. -/
theorem get?_load_of_ne (fromShelf : Bool) (hne : other ≠ folder) :
    (shelf.load nesting disk folder fromShelf).shelf.get? other = shelf.get? other := by
  by_cases hhit : fromShelf = false ∨ shelf.get? folder = none
  · rw [load_eq_reload hhit]
    cases hload : loadWorld nesting disk folder with
    | error error => rw [reload_of_error hload]
    | ok world => rw [reload_of_ok hload, get?_put, if_neg hne]
  · rw [not_or, Bool.not_eq_false] at hhit
    obtain ⟨rfl, hsome⟩ := hhit
    obtain ⟨loaded, hloaded⟩ := Option.ne_none_iff_exists'.mp hsome
    rw [load_of_get? hloaded]

end Shelf

/-! ## Histories -/

/-- The files, the settings and the shelf of a program. -/
structure Library where
  disk : Disk
  environment : Environment
  host : Host
  shelf : Shelf

/-- The folder that a call is for: the one that it names, or the one of the settings. -/
def folderOf (environment : Environment) (host : Host) : Option String → Except HomeError Path
  | some folder => .ok (Path.parse folder)
  | none => Settings.worldFolder environment host

/-- What comes of a call that is made now. -/
def Library.answer (library : Library) (folder : Path) (fromShelf : Bool) : Shelf.Answer :=
  library.shelf.load library.host.nesting library.disk folder fromShelf

/-- A call for a world, and what came of it. -/
structure Call where
  folder : Path
  /-- Whether the world may be taken from the shelf. -/
  fromShelf : Bool
  answer : Shelf.Answer

/-- The calls of a program that starts with an empty shelf, the last one first, and where they lead.
Between them the files and the settings may change in any way. A call whose folder is not known
fails before it comes to anything. -/
inductive Library.History : List Call → Library → Prop
  | start (disk : Disk) (environment : Environment) (host : Host) :
      History [] ⟨disk, environment, host, .empty⟩
  | files {calls : List Call} {library : Library} (disk : Disk) (h : History calls library) :
      History calls { library with disk := disk }
  | settings {calls : List Call} {library : Library} (environment : Environment) (host : Host)
      (h : History calls library) :
      History calls { library with environment := environment, host := host }
  | call {calls : List Call} {library : Library} (folder? : Option String) (fromShelf : Bool)
      {folder : Path} (h : History calls library)
      (hfolder : folderOf library.environment library.host folder? = .ok folder) :
      History (⟨folder, fromShelf, library.answer folder fromShelf⟩ :: calls)
        { library with shelf := (library.answer folder fromShelf).shelf }

/-- Whether a call has given the world of a folder. -/
def Call.Gives (call : Call) (folder : Path) (loaded : Loaded) : Prop :=
  call.folder = folder ∧ call.answer.result = .ok loaded

/-- Whether a call reads the files: it has to, or no call before it has given the world. -/
def Call.Reads (call : Call) (before : List Call) : Prop :=
  call.fromShelf = false ∨ ∀ earlier ∈ before, ∀ loaded, ¬earlier.Gives call.folder loaded

/-- The world that was read from a folder last, by the calls, the last one first. -/
inductive LastRead : List Call → Path → Loaded → Prop
  | now {call : Call} {before : List Call} {folder : Path} {loaded : Loaded}
      (hreads : call.Reads before) (hgives : call.Gives folder loaded) :
      LastRead (call :: before) folder loaded
  | earlier {call : Call} {before : List Call} {folder : Path} {loaded : Loaded}
      (hlater : ¬(call.Reads before ∧ ∃ other, call.Gives folder other))
      (hlast : LastRead before folder loaded) : LastRead (call :: before) folder loaded

section Histories

variable {calls before : List Call} {call : Call} {library : Library}
variable {shelf : Shelf} {folder : Path} {loaded : Loaded}

/-- A call that reads nothing, or reads in vain, changes nothing about what was read last. -/
theorem lastRead_cons_iff (h : ¬(call.Reads before ∧ ∃ other, call.Gives folder other)) :
    LastRead (call :: before) folder loaded ↔ LastRead before folder loaded := by
  constructor
  · intro hlast
    cases hlast with
    | now hreads hgives => exact absurd ⟨hreads, loaded, hgives⟩ h
    | earlier _ hlast => exact hlast
  · exact .earlier h

/-- A call that reads a world makes it the one that was read last. -/
theorem lastRead_cons_of_reads {other : Loaded} (hreads : call.Reads before)
    (hgives : call.Gives folder loaded) :
    LastRead (call :: before) folder other ↔ loaded = other := by
  constructor
  · intro hlast
    cases hlast with
    | now _ hother => exact Except.ok.inj (hgives.2.symm.trans hother.2)
    | earlier hlater => exact absurd ⟨hreads, loaded, hgives⟩ hlater
  · rintro rfl
    exact .now hreads hgives

/-- What was read last was given by a call. -/
theorem LastRead.exists_gives (h : LastRead calls folder loaded) :
    ∃ call ∈ calls, call.Gives folder loaded := by
  induction h with
  | now _ hgives => exact ⟨_, List.mem_cons_self, hgives⟩
  | earlier _ _ ih =>
      obtain ⟨call, hcall, hgives⟩ := ih
      exact ⟨call, List.mem_cons_of_mem _ hcall, hgives⟩

/-- What a shelf has to do with the calls so far. -/
structure Shelf.Reflects (shelf : Shelf) (calls : List Call) : Prop where
  get?_eq_some_iff : ∀ folder loaded,
    shelf.get? folder = some loaded ↔ LastRead calls folder loaded
  /-- A folder that was ever read is on the shelf. -/
  not_gives : ∀ folder, shelf.get? folder = none →
    ∀ call ∈ calls, ∀ loaded, ¬call.Gives folder loaded
  /-- Numbers are not given twice. -/
  serial_lt : ∀ call ∈ calls, ∀ folder loaded, call.Gives folder loaded →
    loaded.serial < shelf.count

namespace Shelf.Reflects

theorem empty : Shelf.empty.Reflects [] where
  get?_eq_some_iff := fun _ _ => iff_of_false nofun nofun
  not_gives := fun _ _ => nofun
  serial_lt := nofun

theorem get?_eq_none_iff (h : shelf.Reflects calls) (folder : Path) :
    shelf.get? folder = none ↔ ∀ call ∈ calls, ∀ loaded, ¬call.Gives folder loaded := by
  refine ⟨h.not_gives folder, fun hnever => ?_⟩
  cases hget : shelf.get? folder with
  | none => rfl
  | some loaded =>
      obtain ⟨call, hcall, hgives⟩ := ((h.get?_eq_some_iff folder loaded).mp hget).exists_gives
      exact absurd hgives (hnever call hcall loaded)

/-- A call reads the files exactly if it may not use the shelf or finds nothing there. -/
theorem reads_iff (h : shelf.Reflects calls) (fromShelf : Bool) (answer : Shelf.Answer) :
    Call.Reads ⟨folder, fromShelf, answer⟩ calls ↔
      fromShelf = false ∨ shelf.get? folder = none :=
  or_congr_right (h.get?_eq_none_iff folder).symm

/-- Taking a world from the shelf. -/
theorem hit (h : shelf.Reflects calls) (hget : shelf.get? folder = some loaded) :
    shelf.Reflects (⟨folder, true, ⟨.ok loaded, [], shelf⟩⟩ :: calls) := by
  have hlast := (h.get?_eq_some_iff folder loaded).mp hget
  obtain ⟨first, hfirst, hgives⟩ := hlast.exists_gives
  refine ⟨fun other found => ?_, ?_, ?_⟩
  · rw [h.get?_eq_some_iff, lastRead_cons_iff]
    rintro ⟨hreads, -⟩
    rw [h.reads_iff, hget] at hreads
    rcases hreads with hread | hread <;> cases hread
  · intro other hnone
    refine List.forall_mem_cons.mpr ⟨?_, h.not_gives other hnone⟩
    rintro found ⟨rfl, -⟩
    rw [hget] at hnone
    cases hnone
  · refine List.forall_mem_cons.mpr ⟨?_, h.serial_lt⟩
    rintro other found ⟨-, hfound⟩
    rw [← Except.ok.inj hfound]
    exact h.serial_lt first hfirst folder loaded hgives

/-- Reading a world in vain. -/
theorem failed (h : shelf.Reflects calls) (fromShelf : Bool) (error : LoadError) :
    shelf.Reflects (⟨folder, fromShelf, ⟨.error error, [], shelf⟩⟩ :: calls) := by
  have hnothing (other : Path) (found : Loaded) :
      ¬Call.Gives ⟨folder, fromShelf, ⟨.error error, [], shelf⟩⟩ other found := by
    rintro ⟨-, hfound⟩
    cases hfound
  refine ⟨fun other found => ?_, ?_, ?_⟩
  · rw [h.get?_eq_some_iff, lastRead_cons_iff]
    rintro ⟨-, found, hgives⟩
    exact hnothing other found hgives
  · intro other hnone
    exact List.forall_mem_cons.mpr ⟨hnothing other, h.not_gives other hnone⟩
  · refine List.forall_mem_cons.mpr ⟨?_, h.serial_lt⟩
    intro other found hgives
    exact absurd hgives (hnothing other found)

/-- Reading a world. -/
theorem read (h : shelf.Reflects calls) {fromShelf : Bool}
    (hreads : fromShelf = false ∨ shelf.get? folder = none) (world : World) (log : List LogLine) :
    (shelf.put folder world).Reflects
      (⟨folder, fromShelf, ⟨.ok ⟨shelf.count, world⟩, log, shelf.put folder world⟩⟩ :: calls) := by
  refine ⟨fun other found => ?_, fun other hnone => ?_, ?_⟩
  · -- under its folder the shelf has the new world, elsewhere what it had
    rw [Shelf.get?_put]
    by_cases hsame : other = folder
    · rw [if_pos hsame, lastRead_cons_of_reads ((h.reads_iff _ _).mpr hreads) ⟨hsame.symm, rfl⟩,
        Option.some.injEq]
    · rw [if_neg hsame, h.get?_eq_some_iff, lastRead_cons_iff]
      rintro ⟨-, _, hother, -⟩
      exact hsame hother.symm
  · -- so a folder with nothing on the shelf is another, and was never read before
    rw [Shelf.get?_put] at hnone
    by_cases hsame : other = folder
    · rw [if_pos hsame] at hnone
      cases hnone
    · rw [if_neg hsame] at hnone
      refine List.forall_mem_cons.mpr ⟨?_, h.not_gives other hnone⟩
      rintro found ⟨hother, -⟩
      exact hsame hother.symm
  · -- and the new world has the first number that was not given yet
    refine List.forall_mem_cons.mpr ⟨?_, fun call hcall other found hgives => ?_⟩
    · rintro other found ⟨-, hfound⟩
      rw [← Except.ok.inj hfound]
      exact Nat.lt_succ_self shelf.count
    · exact Nat.lt_succ_of_lt (h.serial_lt call hcall other found hgives)

/-- Every call keeps the shelf what it is. -/
theorem load (h : shelf.Reflects calls) (nesting : Nat) (disk : Disk) (folder : Path)
    (fromShelf : Bool) :
    (shelf.load nesting disk folder fromShelf).shelf.Reflects
      (⟨folder, fromShelf, shelf.load nesting disk folder fromShelf⟩ :: calls) := by
  by_cases hreads : fromShelf = false ∨ shelf.get? folder = none
  · rw [Shelf.load_eq_reload hreads]
    cases hload : loadWorld nesting disk folder with
    | error error =>
        rw [Shelf.reload_of_error hload]
        exact h.failed fromShelf error
    | ok world =>
        rw [Shelf.reload_of_ok hload]
        exact h.read hreads world (loadLog folder world)
  · rw [not_or, Bool.not_eq_false] at hreads
    obtain ⟨rfl, hsome⟩ := hreads
    obtain ⟨loaded, hloaded⟩ := Option.ne_none_iff_exists'.mp hsome
    rw [Shelf.load_of_get? hloaded]
    exact h.hit hloaded

end Shelf.Reflects

/-- After any history the shelf is what the calls have made of it. -/
theorem Library.History.reflects (h : Library.History calls library) :
    library.shelf.Reflects calls := by
  induction h with
  | start => exact .empty
  | files _ _ ih => exact ih
  | settings _ _ _ ih => exact ih
  | @call _ library _ fromShelf folder _ _ ih =>
      exact ih.load library.host.nesting library.disk folder fromShelf

/-- After any history of calls, with any changes of the files and the settings between them, the
shelf holds for each folder the world that was read last, and nothing for a folder that was never
read. A call that may use the shelf and finds a world there takes this very world, whatever is in
the files, and leaves no trace. Any other call reads the files as they are. It fails just with the
fault of the folder that is told first, and then nothing happens to the shelf. Otherwise it gives
just the world that is in the folder, as a new one, and puts it on the shelf. No call touches what
the shelf holds for other folders. -/
theorem the_shelf_holds_what_was_read_last (h : Library.History calls library) :
    (∀ folder loaded,
      library.shelf.get? folder = some loaded ↔ LastRead calls folder loaded) ∧
    (∀ folder, library.shelf.get? folder = none ↔
      ∀ call ∈ calls, ∀ loaded, ¬call.Gives folder loaded) ∧
    ∀ folder fromShelf,
      let answer := library.answer folder fromShelf
      (∀ loaded, library.shelf.get? folder = some loaded → fromShelf = true →
        ∀ nesting disk,
          library.shelf.load nesting disk folder fromShelf = ⟨.ok loaded, [], library.shelf⟩) ∧
      (fromShelf = false ∨ library.shelf.get? folder = none →
        (∀ error, answer.result = .error error ↔
          library.disk.FirstFault library.host.nesting folder error) ∧
        (∀ world, (∃ loaded, answer.result = .ok loaded ∧ loaded.world = world) ↔
          library.disk.HoldsWorld library.host.nesting folder world) ∧
        (∀ error, answer.result = .error error →
          answer = ⟨.error error, [], library.shelf⟩) ∧
        ∀ loaded, answer.result = .ok loaded →
          answer.log = loadLog folder loaded.world ∧ answer.shelf.get? folder = some loaded ∧
            ∀ call ∈ calls, ∀ other old, call.Gives other old → old.serial ≠ loaded.serial) ∧
      ∀ other, other ≠ folder → answer.shelf.get? other = library.shelf.get? other := by
  have hreflects := h.reflects
  refine ⟨hreflects.get?_eq_some_iff, hreflects.get?_eq_none_iff, fun folder fromShelf =>
    ⟨?_, fun hreads => ?_, fun other hne => Shelf.get?_load_of_ne fromShelf hne⟩⟩
  · rintro loaded hget rfl nesting disk
    exact Shelf.load_of_get? hget nesting disk
  · rw [Library.answer, Shelf.load_eq_reload hreads]
    refine ⟨fun _ => Shelf.result_reload_eq_error_iff, fun _ => Shelf.exists_result_reload_iff,
      fun _ => Shelf.reload_of_result_eq_error, fun loaded hresult => ?_⟩
    obtain ⟨hserial, hlog, hshelf⟩ := Shelf.of_result_reload_eq_ok hresult
    refine ⟨hlog, hshelf, fun call hcall other old hgives => ?_⟩
    rw [hserial]
    exact Nat.ne_of_lt (hreflects.serial_lt call hcall other old hgives)

end Histories

/-! ## A folder that is lost -/

namespace Attic

def folder : Path := ⟨0, ["attic"]⟩

/-- A program whose own tables are in the attic. -/
def host : Host := { Host.standard with packaged := folder }

/-- A folder with a table of areas, in which there are none. -/
def disk : Disk := fun path =>
  if path = ⟨0, ["attic", "areas.json"]⟩ then .file [0x7B, 0x7D] else .absent

def world : World := ⟨[], [], []⟩

theorem loadWorld_disk : loadWorld host.nesting disk folder = .ok world := by
  have hread : Json.read host.nesting (Text.unifyNewlines ['{', '}']) = .ok (.object []) := by
    with_unfolding_all rfl
  have hareas : disk.Holds host.nesting ⟨0, ["attic", "areas.json"]⟩ (.object []) :=
    ⟨[0x7B, 0x7D], ['{', '}'], rfl, rfl, hread⟩
  exact loadWorld_of_ofTables hareas (.inl ⟨rfl, rfl⟩) (.inl ⟨rfl, rfl⟩) rfl

/-- The shelf after the folder was read. -/
def shelf : Shelf := Shelf.empty.put folder world

/-- The program reads its own tables. Then they are lost, and it asks for them by name, afresh. -/
theorem history : Library.History
    [⟨folder, false, ⟨.error (.missing ⟨0, ["attic", "areas.json"]⟩), [], shelf⟩⟩,
      ⟨folder, true, ⟨.ok ⟨0, world⟩, loadLog folder world, shelf⟩⟩]
    ⟨fun _ => .absent, fun _ => none, host, shelf⟩ := by
  have hread : Shelf.empty.load host.nesting disk folder true =
      ⟨.ok ⟨0, world⟩, loadLog folder world, shelf⟩ :=
    Shelf.reload_of_ok loadWorld_disk
  have hfirst : Library.History [⟨folder, true, Shelf.empty.load host.nesting disk folder true⟩]
      ⟨disk, fun _ => none, host, (Shelf.empty.load host.nesting disk folder true).shelf⟩ :=
    .call none true (.start disk _ host) rfl
  rw [hread] at hfirst
  exact .call (some "./attic//") false (.files (fun _ => .absent) hfirst) rfl

end Attic

/-- What was read before the files were lost stays on the shelf, also where reading them again is
tried in vain. -/
theorem the_shelf_outlives_the_files :
    Attic.shelf.get? Attic.folder = some ⟨0, Attic.world⟩ ∧
      Attic.shelf.load Attic.host.nesting (fun _ => .absent) Attic.folder true =
        ⟨.ok ⟨0, Attic.world⟩, [], Attic.shelf⟩ ∧
      Attic.shelf.load Attic.host.nesting (fun _ => .absent) Attic.folder false =
        ⟨.error (.missing ⟨0, ["attic", "areas.json"]⟩), [], Attic.shelf⟩ := by
  obtain ⟨hshelf, -, hcalls⟩ := the_shelf_holds_what_was_read_last Attic.history
  have hget := (hshelf Attic.folder ⟨0, Attic.world⟩).mpr
    (.earlier (fun h => nomatch h.2) (.now (.inr nofun) ⟨rfl, rfl⟩))
  have hfault := ((hcalls Attic.folder false).2.1 (.inl rfl)).1
    (.missing ⟨0, ["attic", "areas.json"]⟩)
  exact ⟨hget, (hcalls Attic.folder true).1 _ hget rfl _ _,
    ((hcalls Attic.folder false).2.1 (.inl rfl)).2.2.1 _ (hfault.mpr (.missing rfl))⟩

end Walkthrough

import Walkthrough.Command.Run

/-!
# What a command reads

Before anything is compiled a command reads the tables of its world, then its build and then its
documents. Either all of this can be read, or there is a first thing that cannot.

* `Loads` — the material of a run, each part of which is read from its file;
* `Fails` — the first thing that cannot be read, with all before it read;
* `exists_loads_or_fails` — one of the two is the case;
* `loadAll_of_loads`, `loadAll_of_fails` — what is loaded in either case.
-/

namespace Walkthrough.Command

variable {disk : Disk} {settings : Settings} {options : Options} {material : Material}
variable {failure : Failure}

/-! ## The two cases -/

/-- The world that a run needs, as it is loaded. -/
def LoadsWorld (disk : Disk) (settings : Settings) (options : Options) (world : World) : Prop :=
  ∃ folder, worldFolder settings options = .ok folder ∧
    loadWorld settings.nesting disk folder = .ok world

/-- The material of a run: all that it needs can be read. -/
structure Loads (disk : Disk) (settings : Settings) (options : Options) (material : Material) :
    Prop where
  world : LoadsWorld disk settings options material.world
  build : options.build.map (loadBuild settings.nesting disk) = material.build.map .ok
  documents : options.documents.map (readDocument disk) = material.documents.map .ok

/-- The first thing that a run needs and that cannot be read. -/
inductive Fails (disk : Disk) (settings : Settings) (options : Options) : Failure → Prop
  | folder {cause : Crash} (h : worldFolder settings options = .error cause) :
      Fails disk settings options (.folder cause)
  | world {folder : Path} {error : LoadError}
      (hfolder : worldFolder settings options = .ok folder)
      (h : loadWorld settings.nesting disk folder = .error error) :
      Fails disk settings options (.load error)
  | build {world : World} {path : Path} {error : LoadError}
      (hworld : LoadsWorld disk settings options world) (hpath : options.build = some path)
      (h : loadBuild settings.nesting disk path = .error error) :
      Fails disk settings options (.load error)
  | document {world : World} {build : Option Build} {before after : List Path} {path : Path}
      {error : DocumentError} (hworld : LoadsWorld disk settings options world)
      (hbuild : options.build.map (loadBuild settings.nesting disk) = build.map .ok)
      (hpaths : options.documents = before ++ path :: after)
      (hbefore : ∀ earlier ∈ before, ∃ document, readDocument disk earlier = .ok document)
      (h : readDocument disk path = .error error) : Fails disk settings options (.document error)

/-! ## Part by part -/

theorem readBuild_eq_ok_iff {nesting : Nat} {path? : Option Path} {build : Option Build} :
    readBuild nesting disk path? = .ok build ↔
      path?.map (loadBuild nesting disk) = build.map .ok := by
  cases path? with
  | none => cases build <;> simp [readBuild]
  | some path =>
      rw [readBuild, Option.map_some]
      cases hload : loadBuild nesting disk path with
      | error error => cases build <;> simp
      | ok loaded => cases build <;> simp

theorem readBuild_eq_error_iff {nesting : Nat} {path? : Option Path} :
    readBuild nesting disk path? = .error failure ↔
      ∃ path error, path? = some path ∧ loadBuild nesting disk path = .error error ∧
        failure = .load error := by
  cases path? with
  | none => simp [readBuild]
  | some path =>
      rw [readBuild]
      cases hload : loadBuild nesting disk path with
      | error error => simp [hload, eq_comm]
      | ok loaded => simp [hload]

theorem readDocuments_eq_ok_iff {paths : List Path} {documents : List String} :
    readDocuments disk paths = .ok documents ↔
      paths.map (readDocument disk) = documents.map .ok := by
  induction paths generalizing documents with
  | nil => cases documents <;> simp [readDocuments]
  | cons path paths ih =>
      rw [readDocuments, List.map_cons]
      cases hread : readDocument disk path with
      | error error => cases documents <;> simp
      | ok document =>
          cases documents with
          | nil => cases readDocuments disk paths <;> simp [Except.map]
          | cons first documents =>
              rw [List.map_cons, List.cons.injEq, Except.ok.injEq, ← ih]
              cases readDocuments disk paths <;> simp [Except.map]

/-- The reading of documents ends at the first one that cannot be read. -/
theorem readDocuments_eq_error_iff_find? {paths : List Path} :
    readDocuments disk paths = .error failure ↔
      ∃ path error, paths.find? (fun path => !(readDocument disk path).isOk) = some path ∧
        readDocument disk path = .error error ∧ failure = .document error := by
  induction paths with
  | nil => simp [readDocuments]
  | cons first paths ih =>
      rw [readDocuments, List.find?_cons]
      cases hread : readDocument disk first with
      | error error =>
          have hfails : (!(Except.isOk (.error error : Except DocumentError String))) = true := rfl
          simp only [hfails, Except.error.injEq, Option.some.injEq]
          constructor
          · rintro rfl
            exact ⟨first, error, rfl, hread, rfl⟩
          · rintro ⟨path, other, rfl, hother, rfl⟩
            rw [Except.error.inj (hread.symm.trans hother)]
      | ok document =>
          have hreads : (!(Except.isOk (.ok document : Except DocumentError String))) = false := rfl
          simp only [hreads, ← ih]
          cases readDocuments disk paths <;> simp [Except.map]

theorem readDocuments_eq_error_iff {paths : List Path} :
    readDocuments disk paths = .error failure ↔
      ∃ before path after error, paths = before ++ path :: after ∧
        (∀ earlier ∈ before, ∃ document, readDocument disk earlier = .ok document) ∧
        readDocument disk path = .error error ∧ failure = .document error := by
  have hisOk : ∀ path, (!!(readDocument disk path).isOk) = true ↔
      ∃ document, readDocument disk path = .ok document := by
    intro path
    cases readDocument disk path <;> simp [Except.isOk, Except.toBool]
  simp only [readDocuments_eq_error_iff_find?, List.find?_eq_some_iff_append, hisOk]
  constructor
  · rintro ⟨path, error, ⟨-, before, after, hpaths, hbefore⟩, herror, hfailure⟩
    exact ⟨before, path, after, error, hpaths, hbefore, herror, hfailure⟩
  · rintro ⟨before, path, after, error, hpaths, hbefore, herror, hfailure⟩
    have hfails : (!(readDocument disk path).isOk) = true := by rw [herror]; rfl
    exact ⟨path, error, ⟨hfails, before, after, hpaths, hbefore⟩, herror, hfailure⟩

theorem loadRest_eq_ok_iff {nesting : Nat} {world : World} :
    loadRest nesting disk options world = .ok material ↔
      material.world = world ∧
        options.build.map (loadBuild nesting disk) = material.build.map .ok ∧
        options.documents.map (readDocument disk) = material.documents.map .ok := by
  obtain ⟨other, build, documents⟩ := material
  rw [loadRest, ← readBuild_eq_ok_iff, ← readDocuments_eq_ok_iff]
  cases readBuild nesting disk options.build with
  | error error => simp [bind, Except.bind]
  | ok loaded =>
      cases readDocuments disk options.documents with
      | error error => simp [bind, Except.bind]
      | ok read => simp [bind, Except.bind, pure, Except.pure, eq_comm]

theorem loadRest_eq_error_iff {nesting : Nat} {world : World} :
    loadRest nesting disk options world = .error failure ↔
      readBuild nesting disk options.build = .error failure ∨
        ∃ build, readBuild nesting disk options.build = .ok build ∧
          readDocuments disk options.documents = .error failure := by
  rw [loadRest]
  cases readBuild nesting disk options.build with
  | error error => simp [bind, Except.bind]
  | ok loaded =>
      cases readDocuments disk options.documents with
      | error error => simp [bind, Except.bind]
      | ok read => simp [bind, Except.bind, pure, Except.pure]

/-! ## All of it -/

theorem loadAll_of_world {world : World} (h : LoadsWorld disk settings options world) :
    (loadAll disk settings options).1 = loadRest settings.nesting disk options world := by
  obtain ⟨folder, hfolder, hworld⟩ := h
  rw [loadAll, hfolder]
  simp only [hworld]

/-- All is read if each part of the material is. -/
theorem loadAll_of_loads (h : Loads disk settings options material) :
    (loadAll disk settings options).1 = .ok material := by
  rw [loadAll_of_world h.world, loadRest_eq_ok_iff]
  exact ⟨rfl, h.build, h.documents⟩

/-- The first thing that cannot be read ends the reading. -/
theorem loadAll_of_fails (h : Fails disk settings options failure) :
    (loadAll disk settings options).1 = .error failure := by
  cases h with
  | folder h => rw [loadAll, h]
  | world hfolder h =>
      rw [loadAll, hfolder]
      simp only [h]
  | build hworld hpath h =>
      rw [loadAll_of_world hworld, loadRest_eq_error_iff, readBuild_eq_error_iff]
      exact .inl ⟨_, _, hpath, h, rfl⟩
  | document hworld hbuild hpaths hbefore h =>
      rw [loadAll_of_world hworld, loadRest_eq_error_iff, readDocuments_eq_error_iff]
      exact .inr ⟨_, readBuild_eq_ok_iff.mpr hbuild, _, _, _, _, hpaths, hbefore, h, rfl⟩

/-- A run reads all that it needs, or there is a first thing that it cannot read. -/
theorem exists_loads_or_fails (disk : Disk) (settings : Settings) (options : Options) :
    (∃ material, Loads disk settings options material) ∨
      ∃ failure, Fails disk settings options failure := by
  cases hfolder : worldFolder settings options with
  | error cause => exact .inr ⟨_, .folder hfolder⟩
  | ok folder =>
  cases hload : loadWorld settings.nesting disk folder with
  | error error => exact .inr ⟨_, .world hfolder hload⟩
  | ok world =>
  have hworld : LoadsWorld disk settings options world := ⟨folder, hfolder, hload⟩
  cases hbuild : readBuild settings.nesting disk options.build with
  | error failure =>
      obtain ⟨path, error, hpath, herror, -⟩ := readBuild_eq_error_iff.mp hbuild
      exact .inr ⟨_, .build hworld hpath herror⟩
  | ok build =>
  have hbuild := readBuild_eq_ok_iff.mp hbuild
  cases hdocuments : readDocuments disk options.documents with
  | error failure =>
      obtain ⟨before, path, after, error, hpaths, hbefore, herror, -⟩ :=
        readDocuments_eq_error_iff.mp hdocuments
      exact .inr ⟨_, .document hworld hbuild hpaths hbefore herror⟩
  | ok documents =>
      exact .inl ⟨⟨world, build, documents⟩, hworld, hbuild, readDocuments_eq_ok_iff.mp hdocuments⟩

end Walkthrough.Command

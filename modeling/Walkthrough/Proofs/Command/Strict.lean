import Walkthrough.Command.Arguments
import Walkthrough.Settings

/-!
# How strict a run is

A run is strict if its arguments or its environment say so. Nothing else that they say depends on
it: two runs that differ only there ask for the same otherwise. The same goes for the log level in
the environment.

* `Options.lax`, `Settings.lax` — what is asked for and set apart from that;
* `Options.parse_lax` — the arguments ask for the same, whatever the environment says;
* `Options.exists_parse` — so what asks for a run still does;
* `Options.parse_strict` — the option does what the environment can do;
* `Settings.lax_ofEnvironment` — the environment sets the same, whatever it says there.
-/

namespace Walkthrough

/-! ## Arguments -/

namespace Options

/-- The options of a run that need not be strict. -/
def lax (options : Options) : Options := { options with strict := false }

def Draft.lax (draft : Draft) : Draft := { draft with options := draft.options.lax }

def Request.lax : Request → Request
  | .help => .help
  | .run options => .run options.lax

variable {dialect : Dialect} {draft draft' : Draft} {held : Option (List String)}
variable {arguments : List Argument}

theorem Draft.lax_switch (draft : Draft) (flag : Flag) : (draft.switch flag).lax = draft.lax := by
  cases flag <;> rfl

theorem Draft.lax_assign (dialect : Dialect) (draft : Draft) (flag : Flag) (value : String) :
    (draft.assign dialect flag value).lax = draft.lax.assign dialect flag value := by
  cases flag <;> rfl

theorem Draft.lax_name (draft : Draft) (documents : List String) :
    (draft.name documents).lax = draft.lax.name documents := by
  by_cases h : documents = [] ∨ draft.options.documents ≠ []
  · have h' : documents = [] ∨ draft.lax.options.documents ≠ [] := h
    rw [Draft.name, Draft.name, if_pos h, if_pos h']
    rfl
  · have h' : ¬(documents = [] ∨ draft.lax.options.documents ≠ []) := h
    rw [Draft.name, Draft.name, if_neg h, if_neg h']
    rfl

/-- The documents that were held back are named in both drafts. -/
theorem Draft.lax_elim_name (h : draft'.lax = draft.lax) :
    (held.elim draft' fun documents => draft'.name documents.reverse).lax =
      (held.elim draft fun documents => draft.name documents.reverse).lax := by
  cases held with
  | none => exact h
  | some documents =>
      show (draft'.name _).lax = (draft.name _).lax
      rw [Draft.lax_name, Draft.lax_name, h]

/-- The arguments end alike after drafts that differ only in how strict they are. -/
theorem request_nil_lax (h : draft'.lax = draft.lax) :
    (request dialect draft' held []).map Request.lax =
      (request dialect draft held []).map Request.lax := by
  have hnamed := @Draft.lax_elim_name draft draft' held h
  rw [request, request]
  generalize held.elim draft' (fun documents => draft'.name documents.reverse) = named' at hnamed
  generalize held.elim draft (fun documents => draft.name documents.reverse) = named at hnamed
  have hmany : named'.tooMany = named.tooMany := by injection hnamed
  have hoptions : named'.options.lax = named.options.lax := by injection hnamed
  have hdocuments : named'.options.documents = named.options.documents := by injection hoptions
  rw [hmany, hdocuments]
  split
  · rfl
  · exact congrArg (fun options => Except.ok (Request.run options)) hoptions

/-- What is asked for depends on how strict the draft is only in how strict the run is. -/
theorem request_lax (h : draft'.lax = draft.lax) :
    (request dialect draft' held arguments).map Request.lax =
      (request dialect draft held arguments).map Request.lax := by
  fun_induction request dialect draft held arguments generalizing draft'
  case case1 hwrong => rw [request_nil_lax h, request, if_pos hwrong]
  case case2 hright => rw [request_nil_lax h, request, if_neg hright]
  case case3 ih => exact ih h
  case case4 ih => exact ih h
  case case5 ih =>
    refine ih ?_
    exact congrArg (fun draft => Draft.mk draft.options true) (Draft.lax_elim_name h)
  case case6 hagain => rw [request, if_pos hagain]
  case case7 hagain => rw [request, if_neg hagain]
  case case8 htakes ih | case9 htakes ih =>
    rw [request]
    refine ih ?_
    rw [Draft.lax_assign, Draft.lax_assign, Draft.lax_elim_name h]
    exact htakes
  case case10 htakes hno =>
    rw [request]
    · exact htakes
    · exact hno
  case case11 htakes =>
    unfold request
    simp only [htakes]
  case case12 => rfl
  case case13 flag named rest htakes hhelp ih =>
    cases flag with
    | strict =>
        refine ih ?_
        rw [Draft.lax_switch, Draft.lax_switch, Draft.lax_elim_name h]
    | help => exact absurd rfl hhelp
    | _ => cases htakes

/-- The arguments ask for the same, however strict a run is that is not asked to be. -/
theorem parse_lax (dialect : Dialect) (strict strict' : Bool) (arguments : List String) :
    (parse dialect strict' arguments).map Request.lax =
      (parse dialect strict arguments).map Request.lax := by
  rw [parse, parse]
  cases Argument.classifyAll arguments with
  | error error => rfl
  | ok classified => exact request_lax rfl

/-- The arguments of a run still ask for one, however strict it is. -/
theorem exists_parse {strict : Bool} {arguments : List String} {options : Options}
    (h : parse dialect strict arguments = .ok (.run options)) (strict' : Bool) :
    ∃ options', parse dialect strict' arguments = .ok (.run options') ∧
      options'.lax = options.lax := by
  have hlax := parse_lax dialect strict strict' arguments
  rw [h] at hlax
  cases hparse : parse dialect strict' arguments with
  | error error =>
      rw [hparse] at hlax
      cases hlax
  | ok request =>
      rw [hparse] at hlax
      have hrequest : request.lax = .run options.lax := Except.ok.inj hlax
      cases request with
      | help => cases hrequest
      | run options' => exact ⟨options', rfl, Request.run.inj hrequest⟩

/-- A run that is asked to be strict first is one that is strict unless it is asked. -/
theorem parse_strict (dialect : Dialect) (strict : Bool) (arguments : List String) :
    parse dialect strict ("--strict" :: arguments) = parse dialect true arguments := by
  have hclassify : Argument.classify "--strict" = .ok (.long .strict none) := rfl
  rw [parse, parse, Argument.classifyAll, hclassify]
  cases Argument.classifyAll arguments <;> rfl

end Options

/-! ## Settings -/

/-- Whether two environments say the same, but for how strict a run is and how much it says. -/
def Environment.Agree (environment environment' : Environment) : Prop :=
  ∀ name, name ≠ "RB_STRICT" → name ≠ "RB_LOG_LEVEL" → environment' name = environment name

namespace Settings

/-- The settings of a run that need not be strict, with the log level that it has by itself. -/
def lax (settings : Settings) : Settings :=
  { settings with logLevel := .ok defaultLevel, strict := false }

variable {environment environment' : Environment}

theorem lax_ofEnvironment (h : environment.Agree environment') (host : Host) :
    (ofEnvironment environment' host).lax = (ofEnvironment environment host).lax := by
  have hsetting : ∀ name, name ≠ "RB_STRICT" → name ≠ "RB_LOG_LEVEL" →
      environment'.setting? name = environment.setting? name := by
    intro name hstrict hlevel
    rw [Environment.setting?, Environment.setting?, h name hstrict hlevel]
  have harea := hsetting "RB_START_AREA" (by decide) (by decide)
  have htown := hsetting "RB_START_TOWN" (by decide) (by decide)
  have hlabyrinth := hsetting "RB_LABYRINTH_AREA" (by decide) (by decide)
  have hworld : worldFolder environment' host = worldFolder environment host := by
    rw [worldFolder, worldFolder, hsetting "RB_WORLD_DIR" (by decide) (by decide),
      h "HOME" (by decide) (by decide)]
  rw [lax, lax, ofEnvironment, ofEnvironment, harea, htown, hlabyrinth, hworld]

end Settings

end Walkthrough

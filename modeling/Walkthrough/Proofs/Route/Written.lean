import Walkthrough.Command.Run
import Walkthrough.Proofs.Files.Kept
import Walkthrough.Proofs.Number.Short
import Walkthrough.Proofs.Run.Account
import Walkthrough.Proofs.Run.Selection

/-!
# Written routes

Routes are written as JSON to be read by another program. Nothing is lost on the way: the text is
read as just the value that was written, and no other routes are written as this value.

There are two conditions. The names from the world must be texts, since a half of a character cannot
be written. And the positions of offers must not have too many digits, since such numbers are
neither printed nor read; those that come about while documents are compiled never do.

* `Action.toJson_injective`, `Step.toJson_injective`, `Route.listToJson_injective` — what is written
  tells what it was written for;
* `Route.Named`, `Route.Counted` — the two conditions; `counted_compile` says where the second one
  always holds;
* `Route.writable_listToJson` — under these conditions routes can be written and read;
* `plain_routesText`, `exists_halves` — whether there is a text to print or to write;
* `written_routes_are_lossless` — the text of routes, read again.
-/

namespace Walkthrough

open Walkthrough.Number Walkthrough.Text

/-! ## What is written tells what it was written for -/

namespace Json

theorem text_inj {a b : String} : text a = text b ↔ a = b := by
  rw [text, text, string.injEq, Letters.ofString_inj]

theorem record_inj {a b : List (String × Json)} : record a = record b ↔ a = b := by
  have hmember : Function.Injective fun member : String × Json =>
      (Letters.ofString member.1, member.2) := by
    intro member other h
    obtain ⟨hkey, hvalue⟩ := Prod.mk.inj h
    exact Prod.ext (Letters.ofString_inj.mp hkey) hvalue
  rw [record, record, object.injEq]
  exact (List.map_injective_iff.mpr hmember).eq_iff

end Json

/-- A name that may be missing. -/
theorem elim_null_string_inj {a b : Option Letters} :
    a.elim Json.null .string = b.elim Json.null .string ↔ a = b := by
  cases a with
  | none => cases b <;> simp
  | some a => cases b <;> simp

theorem Verb.name_injective : Function.Injective Verb.name := by
  intro a b h
  have hname := congrArg Verb.ofName? h
  rwa [Verb.ofName?_name, Verb.ofName?_name, Option.some.injEq] at hname

/-- Actions of one verb differ in a member. -/
theorem Action.eq_of_members {a b : Action} (hverb : a.verb = b.verb)
    (hmembers : a.members = b.members) : a = b := by
  -- Only pairs of actions of one verb are left.
  cases a <;> cases b <;> cases hverb
  case town | getWaypoint | setPortal | usePortal | trial | ascend => rfl
  case kill | arena | questText | generic => simpa [members, Json.text_inj] using hmembers
  case area | enter => simpa [members] using hmembers
  case waypoint => simpa [members, elim_null_string_inj] using hmembers
  case dir =>
    have heighths := Int.ofNat.inj (Json.int.inj (Prod.mk.inj (List.cons.inj hmembers).1).2)
    rw [Fin.ext heighths]
  case quest =>
    have hposition : Function.Injective fun n : Nat => Json.int n := fun m n h =>
      Int.ofNat.inj (Json.int.inj h)
    simpa [members, (List.map_injective_iff.mpr hposition).eq_iff] using hmembers
  case crafting =>
    have hrecipe : Function.Injective Json.string := fun a b h => Json.string.inj h
    simpa [members, (List.map_injective_iff.mpr hrecipe).eq_iff] using hmembers

theorem Action.toJson_injective : Function.Injective Action.toJson := by
  intro a b h
  obtain ⟨hmembers, htype⟩ := List.append_inj' (Json.record_inj.mp h) rfl
  have hname : a.verb.name = b.verb.name := by
    simpa [Json.text_inj] using htype
  exact Action.eq_of_members (Verb.name_injective hname) hmembers

theorem Part.toJson_injective : Function.Injective Part.toJson := by
  intro a b h
  cases a with
  | text words =>
      cases b with
      | text other => rw [Json.text_inj.mp h]
      | action other => cases h
  | action done =>
      cases b with
      | text other => cases h
      | action other => rw [Action.toJson_injective h]

theorem Side.word_inj {a b : Side} : a.word = b.word ↔ a = b := by
  cases a <;> cases b <;> decide

theorem Step.toJson_injective : Function.Injective Step.toJson := by
  intro a b h
  cases a with
  | line parts =>
      cases b with
      | line others =>
          have hparts : parts.map Part.toJson = others.map Part.toJson := by
            simpa using Json.record_inj.mp h
          rw [List.map_injective_iff.mpr Part.toJson_injective hparts]
      | reward other =>
          have hlength : 2 = 5 := congrArg List.length (Json.record_inj.mp h)
          cases hlength
  | reward reward =>
      cases b with
      | line others =>
          have hlength : 5 = 2 := congrArg List.length (Json.record_inj.mp h)
          cases hlength
      | reward other =>
          obtain ⟨side, gem, npc, note⟩ := reward
          obtain ⟨side', gem', npc', note'⟩ := other
          simpa [Json.text_inj, elim_null_string_inj, Side.word_inj] using Json.record_inj.mp h

theorem Route.listToJson_injective : Function.Injective Route.listToJson := by
  intro a b h
  have hroute : Function.Injective fun route : Route => Json.array (route.map Step.toJson) :=
    fun route other h => List.map_injective_iff.mpr Step.toJson_injective (Json.array.inj h)
  exact List.map_injective_iff.mpr hroute (Json.array.inj h)

/-! ## Routes that can be written -/

/-- The names from the world that an action shows. -/
def Action.names : Action → List Letters
  | .area id | .enter id | .quest id _ => [id]
  | .waypoint target => target.toList
  | .crafting recipes => recipes
  | _ => []

/-- The positions of offers that an action asks for. -/
def Action.offers : Action → List Nat
  | .quest _ offers => offers
  | _ => []

/-- The names from the world and the notes that a step shows. -/
def Step.names : Step → List Letters
  | .line parts => (Step.line parts).actions.flatMap Action.names
  | .reward r => r.gem :: r.npc :: r.note.toList

namespace Route

/-- Whether no name in routes holds a half of a character. -/
def Named (routes : List Route) : Prop :=
  ∀ route ∈ routes, ∀ step ∈ route, ∀ name ∈ step.names, name.IsText

/-- Whether no position of an offer in routes has more digits than can be printed and read. -/
def Counted (routes : List Route) : Prop :=
  ∀ route ∈ routes, ∀ step ∈ route, ∀ action ∈ step.actions, ∀ n ∈ action.offers,
    IsShort n

end Route

variable {room : Nat}

theorem Action.writable_toJson {action : Action} (hnames : ∀ name ∈ action.names, name.IsText)
    (hoffers : ∀ n ∈ action.offers, IsShort n) : action.toJson.Writable (room + 2) := by
  have hmembers : ∀ member ∈ action.members, member.2.Writable (room + 1) := by
    cases action with
    | kill text | arena text | questText text | generic text =>
        exact List.forall_mem_singleton.mpr (Json.writable_text text)
    | area id | enter id =>
        exact List.forall_mem_singleton.mpr (.string (hnames id (List.mem_singleton_self id)))
    | waypoint target => exact List.forall_mem_singleton.mpr (Json.writable_optional hnames)
    | quest id offers =>
        refine List.forall_mem_cons.mpr ⟨.string (hnames id (List.mem_singleton_self id)), ?_⟩
        refine List.forall_mem_singleton.mpr (.array (List.forall_mem_map.mpr fun n hn => .int ?_))
        exact hoffers n hn
    | dir eighths =>
        have hfew : eighths.val < digitLimit := Nat.lt_trans eighths.isLt (by decide)
        exact List.forall_mem_singleton.mpr (.int (isShort_of_lt hfew))
    | crafting recipes =>
        refine List.forall_mem_singleton.mpr (.array (List.forall_mem_map.mpr fun id hid => ?_))
        exact .string (hnames id hid)
    | town | getWaypoint | setPortal | usePortal | trial | ascend => exact nofun
  refine .record ?_ ?_
  · cases action <;> simp [members]
  · refine List.forall_mem_append.mpr ⟨hmembers, List.forall_mem_singleton.mpr ?_⟩
    exact Json.writable_text action.verb.name

theorem Step.writable_toJson {step : Step} (hnames : ∀ name ∈ step.names, name.IsText)
    (hoffers : ∀ action ∈ step.actions, ∀ n ∈ action.offers, IsShort n) :
    step.toJson.Writable (room + 4) := by
  cases step with
  | line parts =>
      have hpart : ∀ part ∈ parts, part.toJson.Writable (room + 2) := by
        intro part hpart
        cases part with
        | text words => exact Json.writable_text words
        | action done =>
            have hdone : done ∈ (Step.line parts).actions :=
              List.mem_filterMap.mpr ⟨.action done, hpart, rfl⟩
            exact Action.writable_toJson
              (fun name hname => hnames name (List.mem_flatMap.mpr ⟨done, hdone, hname⟩))
              (hoffers done hdone)
      refine .record (by simp) ?_
      refine List.forall_mem_cons.mpr ⟨.array (List.forall_mem_map.mpr hpart), ?_⟩
      exact List.forall_mem_singleton.mpr (Json.writable_text _)
  | reward r =>
      obtain ⟨hgem, hnames⟩ := List.forall_mem_cons.mp hnames
      obtain ⟨hnpc, hnote⟩ := List.forall_mem_cons.mp hnames
      refine .record (by simp) ?_
      simp only [List.forall_mem_cons]
      exact ⟨Json.writable_text _, .string hgem, .string hnpc, Json.writable_optional hnote,
        Json.writable_text _, nofun⟩

/-- Routes that can be written take no more than six brackets inside each other. -/
theorem Route.writable_listToJson {routes : List Route} (hnamed : Route.Named routes)
    (hcounted : Route.Counted routes) : (Route.listToJson routes).Writable (room + 6) := by
  refine .array (List.forall_mem_map.mpr fun route hroute => ?_)
  refine .array (List.forall_mem_map.mpr fun step hstep => ?_)
  exact Step.writable_toJson (hnamed route hroute step hstep) (hcounted route hroute step hstep)

/-! ## Compiled routes -/

/-- The positions that an accepted group asks for are numbers that were read. -/
theorem Does.isShort_offers {guide : Guide} {here after : Progress} {fields : List String}
    {done : Accepted} (h : Does guide here fields done after) :
    ∀ n ∈ done.action.offers, IsShort n := by
  cases h with
  | quest hquest hpositions =>
      intro n hn
      have hread := (offerPositions?_eq_some_iff.mp hpositions).1
      have hmem : some (n : Int) ∈ List.map readWhole? _ := hread ▸ List.mem_map_of_mem hn
      obtain ⟨field, -, hfield⟩ := List.mem_map.mp hmem
      exact isShort_of_readWhole? hfield
  | _ => exact nofun

/-- The positions of offers in compiled routes can always be printed and read. -/
theorem Route.counted_compile (guide : Guide) (here : Progress) (documents : List String) :
    Route.Counted (compile guide here documents).routes := by
  intro route hroute step hstep action haction n hn
  have hmem : action ∈ (compile guide here documents).routes.flatten.flatMap Step.actions :=
    List.mem_flatMap.mpr ⟨step, List.mem_flatten.mpr ⟨route, hroute, hstep⟩, haction⟩
  rw [compile, actions_compileDocuments] at hmem
  obtain ⟨turn, hturn, hdone⟩ := List.mem_filterMap.mp hmem
  rw [Turn.action?, verdict_of_mem_walk hturn] at hdone
  cases hattempt : attempt guide turn.here turn.fields with
  | error cause after => rw [hattempt] at hdone; cases hdone
  | ok done after =>
      rw [hattempt] at hdone
      obtain rfl : done.action = action := Option.some.inj hdone
      exact (attempt_eq_ok_iff.mp hattempt).isShort_offers n hn

/-! ## Reading what was written -/

section Reading

variable {routes : List Route}

theorem isBlank_lineEnd : Letters.IsBlank (Letters.ofString "\n") := by
  simp [Letters.ofString, Letters.IsBlank]

/-- The routes can be written and read wherever there is room for their brackets. -/
theorem writable_of_le {nesting : Nat} (hroom : 6 ≤ nesting) (hnamed : Route.Named routes)
    (hcounted : Route.Counted routes) : (Route.listToJson routes).Writable nesting := by
  obtain ⟨room, rfl⟩ := Nat.exists_eq_add_of_le' hroom
  exact Route.writable_listToJson hnamed hcounted

theorem read_routesText {nesting : Nat} (hroom : 6 ≤ nesting) (hnamed : Route.Named routes)
    (hcounted : Route.Counted routes) :
    Json.read nesting (Command.routesText routes).spelled = .ok (Route.listToJson routes) := by
  rw [Command.routesText, Letters.spelled_append]
  exact Json.read_write Json.Layout.isBlank_indented (writable_of_le hroom hnamed hcounted)
    isBlank_lineEnd

theorem isText_routesText (hnamed : Route.Named routes) (hcounted : Route.Counted routes) :
    (Command.routesText routes).IsText := by
  refine Letters.IsKept.isText (Letters.isKept_append.mpr ⟨?_, isBlank_lineEnd.isKept⟩)
  exact Json.isKept_writeAt Json.Layout.isBlank_indented
    (writable_of_le (Nat.le_refl 6) hnamed hcounted) 0

theorem Action.shows_toJson {action : Action} {name : Letters} (h : name ∈ action.names) :
    action.toJson.Shows name := by
  have hmember : ∃ member ∈ action.members, member.2.Shows name := by
    cases action with
    | area id | enter id =>
        obtain rfl := List.mem_singleton.mp h
        exact ⟨_, List.mem_singleton_self _, .string⟩
    | waypoint target =>
        obtain rfl := Option.mem_toList.mp h
        exact ⟨_, List.mem_singleton_self _, .string⟩
    | quest id offers =>
        obtain rfl := List.mem_singleton.mp h
        exact ⟨_, List.mem_cons_self, .string⟩
    | crafting recipes =>
        exact ⟨_, List.mem_singleton_self _, .item (List.mem_map_of_mem h) .string⟩
    | _ => exact absurd h List.not_mem_nil
  obtain ⟨member, hmember, hshows⟩ := hmember
  exact .member (List.mem_map_of_mem (List.mem_append_left _ hmember)) hshows

theorem Step.shows_toJson {step : Step} {name : Letters} (h : name ∈ step.names) :
    step.toJson.Shows name := by
  cases step with
  | line parts =>
      obtain ⟨done, hdone, hname⟩ := List.mem_flatMap.mp h
      obtain ⟨part, hpart, haction⟩ := List.mem_filterMap.mp hdone
      cases part with
      | text words => cases haction
      | action other =>
          obtain rfl := Option.some.inj haction
          have hwritten : other.toJson ∈ parts.map Part.toJson :=
            List.mem_map.mpr ⟨_, hpart, rfl⟩
          exact .member List.mem_cons_self (.item hwritten (Action.shows_toJson hname))
  | reward r =>
      rcases List.mem_cons.mp h with rfl | hmem
      · exact .member (List.mem_cons_of_mem _ List.mem_cons_self) .string
      rcases List.mem_cons.mp hmem with rfl | hnote
      · exact .member (List.mem_cons_of_mem _ (List.mem_cons_of_mem _ List.mem_cons_self)) .string
      · obtain ⟨side, gem, npc, note⟩ := r
        obtain rfl := Option.mem_toList.mp hnote
        exact .member (List.mem_cons_of_mem _ (List.mem_cons_of_mem _
          (List.mem_cons_of_mem _ List.mem_cons_self))) .string

/-- The text of routes can be written to a file if and only if their names are texts. -/
theorem isText_routesText_iff (hcounted : Route.Counted routes) :
    (Command.routesText routes).IsText ↔ Route.Named routes := by
  refine ⟨fun h route hroute step hstep name hname => ?_, (isText_routesText · hcounted)⟩
  have hshows : (Route.listToJson routes).Shows name :=
    .item (List.mem_map_of_mem hroute) (.item (List.mem_map_of_mem hstep) (Step.shows_toJson hname))
  exact Json.isText_of_shows hshows fun letter hletter => h letter (List.mem_append_left _ hletter)

theorem plain_routesText (hnamed : Route.Named routes) (hcounted : Route.Counted routes) :
    Utf8.plain (Command.routesText routes) = .ok (Command.routesText routes).shown :=
  Utf8.plain_eq_ok_iff.mpr ⟨isText_routesText hnamed hcounted, rfl⟩

/-- A name that is no text leaves halves in the text of routes. -/
theorem exists_halves (hnamed : ¬Route.Named routes) (hcounted : Route.Counted routes) :
    ∃ found, Utf8.plain (Command.routesText routes) = .error found := by
  cases hplain : Utf8.plain (Command.routesText routes) with
  | error found => exact ⟨found, rfl⟩
  | ok text =>
      have htext := (Utf8.plain_eq_ok_iff.mp hplain).1
      exact absurd ((isText_routesText_iff hcounted).mp htext) hnamed

/-- The text of routes whose names are texts can be written, and reading it leads to just the value
that was written, also from a file that holds it, wherever six brackets may be open at once. This
value is that of no other routes, so routes with the same text are the same. The positions of offers
must be short for this, since others are neither printed nor read; in compiled routes they are. -/
theorem written_routes_are_lossless :
    (∀ routes, Route.Named routes → Route.Counted routes →
      ∃ text, Utf8.plain (Command.routesText routes) = .ok text ∧
        ∀ nesting, 6 ≤ nesting →
          Json.read nesting text.toList = .ok (Route.listToJson routes) ∧
          ∀ disk path, disk path = .file (Utf8.encode text) →
            readJson nesting disk path = .ok (Route.listToJson routes)) ∧
    (∀ routes others, Route.listToJson routes = Route.listToJson others → routes = others) ∧
    (∀ routes others, Route.Named routes → Route.Counted routes → Route.Named others →
      Route.Counted others → Command.routesText routes = Command.routesText others →
      routes = others) ∧
    ∀ guide here documents, Route.Counted (compile guide here documents).routes := by
  refine ⟨fun routes hnamed hcounted => ?_, fun routes others h => Route.listToJson_injective h,
    fun routes others hnamed hcounted hnamed' hcounted' htext => ?_, Route.counted_compile⟩
  · refine ⟨_, plain_routesText hnamed hcounted, fun nesting hroom =>
      ⟨?_, fun disk path hfile => ?_⟩⟩
    · rw [Letters.toList_shown]
      exact read_routesText hroom hnamed hcounted
    · exact readJson_write Json.Layout.isBlank_indented (writable_of_le hroom hnamed hcounted)
        isBlank_lineEnd hfile
  · have hread := read_routesText (Nat.le_refl 6) hnamed hcounted
    rw [htext, read_routesText (Nat.le_refl 6) hnamed' hcounted'] at hread
    exact Route.listToJson_injective (Except.ok.inj hread).symm

end Reading

namespace Stile

/-- A route over a stile, with marks that have to be escaped, and a gem with a note. -/
def routes : List Route := [
  [.line [.text "\t\"Over\" the stile\\ ", .action (.dir 3), .text " – ",
      .action (.quest "errand" [0, 12])],
    .reward ⟨.quest, "ruby", "hermit", some "the red one"⟩],
  []]

theorem named : Route.Named routes := by
  unfold Route.Named Letters.IsText
  decide +kernel

theorem counted : Route.Counted routes := by
  unfold Route.Counted
  decide +kernel

end Stile

theorem the_route_over_the_stile_is_read_again :
    Route.Named Stile.routes ∧ Route.Counted Stile.routes ∧
      ∃ text, Utf8.plain (Command.routesText Stile.routes) = .ok text ∧
        Json.read Host.standard.nesting text.toList = .ok (Route.listToJson Stile.routes) ∧
        ∀ disk path, disk path = .file (Utf8.encode text) →
          readJson Host.standard.nesting disk path = .ok (Route.listToJson Stile.routes) := by
  obtain ⟨text, hplain, hread⟩ :=
    written_routes_are_lossless.1 Stile.routes Stile.named Stile.counted
  exact ⟨Stile.named, Stile.counted, text, hplain, hread Host.standard.nesting (by decide)⟩

end Walkthrough

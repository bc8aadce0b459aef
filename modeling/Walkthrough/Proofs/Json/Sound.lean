import Walkthrough.Json.Reader
import Walkthrough.Proofs.Number.Short

/-!
# What can be read

Two things can be relied on in every value that was read from a text, wherever it stands in it. The
members of an object are kept as a list, which could name a key twice; but a member that is written
again takes the place of the one before it. And a whole number of too many digits is an error of its
own, so every whole number that was read can be printed.

* `Json.Sound` — both of a value, however deep it looks;
* `Json.Token.sound_of_mem_scan` — the whole numbers among the tokens of a text are short;
* `Json.Reader.State.Sound` — the same of what the reader holds, which every token keeps;
* `Json.sound_of_read` — what is read from a text is sound;
* `Json.Distinct` — the part of it that has to do with keys alone.
-/

namespace Walkthrough

open Walkthrough.Text (Letters)

namespace Json

/-! ## Sound values -/

/-- Whether no object in a value has a key twice, and no whole number in it is too long. -/
inductive Sound : Json → Prop
  | null : Sound .null
  | bool {value : Bool} : Sound (.bool value)
  | int {value : Int} (hshort : Number.IsShort value.natAbs) : Sound (.int value)
  | float {value : Binary64} : Sound (.float value)
  | string {value : Letters} : Sound (.string value)
  | array {items : List Json} (hitems : ∀ item ∈ items, Sound item) : Sound (.array items)
  | object {members : Table Letters Json} (hkeys : (Table.keys members).Nodup)
      (hmembers : ∀ member ∈ members, Sound member.2) : Sound (.object members)

theorem sound_array_iff {items : List Json} :
    (array items).Sound ↔ ∀ item ∈ items, item.Sound := by
  constructor
  · intro h
    cases h with
    | array hitems => exact hitems
  · exact .array

theorem sound_object_iff {members : Table Letters Json} :
    (object members).Sound ↔
      (Table.keys members).Nodup ∧ ∀ member ∈ members, member.2.Sound := by
  constructor
  · intro h
    cases h with
    | object hkeys hmembers => exact ⟨hkeys, hmembers⟩
  · rintro ⟨hkeys, hmembers⟩
    exact .object hkeys hmembers

theorem Sound.isShort {value : Int} (h : Json.Sound (.int value)) :
    Number.IsShort value.natAbs := by
  cases h with
  | int hshort => exact hshort

/-- A member of a sound object is sound. -/
theorem Sound.of_get? {members : Table Letters Json} (h : Json.Sound (.object members))
    {key : Letters} {json : Json} (hget : members.get? key = some json) : json.Sound :=
  (sound_object_iff.mp h).2 (key, json) (Table.mem_of_get? hget)

/-- A member that is written to an object leaves it sound. -/
theorem sound_put {members : Table Letters Json} {key : Letters} {value : Json}
    (hmembers : (object members).Sound) (hvalue : value.Sound) :
    (object (members.put key value)).Sound := by
  obtain ⟨hkeys, hvalues⟩ := sound_object_iff.mp hmembers
  refine .object (Table.nodup_keys_put hkeys) ?_
  intro member hmember
  rcases Table.mem_of_mem_put hmember with rfl | hold
  · exact hvalue
  · exact hvalues member hold

namespace Token

/-! ## The numbers of a text -/

open Walkthrough.Number

variable {cs rest : List Char} {token : Token}

/-- Whether a token is no whole number that is too long. -/
def Sound : Token → Prop
  | .int value => Number.IsShort value.natAbs
  | _ => True

theorem digit?_lt {c : Char} {d : Nat} (h : digit? c = some d) : d < 10 := by
  unfold digit? at h
  split at h
  next hdigit =>
    cases h
    have hcode : c.toNat ≤ 57 := (Char.isDigit_iff_toNat.mp hdigit).2
    show c.toNat - 48 < 10
    omega
  next => cases h

theorem lt_of_mem_takeDigits (cs : List Char) : ∀ d ∈ (takeDigits digit? cs).1, d < 10 := by
  induction cs with
  | nil => exact List.forall_mem_nil _
  | cons c cs ih =>
      rw [takeDigits]
      cases hd : digit? c with
      | none => exact List.forall_mem_nil _
      | some d => exact List.forall_mem_cons.mpr ⟨digit?_lt hd, ih⟩

theorem lt_of_mem_takeWhole (cs : List Char) : ∀ d ∈ (takeWhole cs).1, d < 10 := by
  unfold takeWhole
  split
  · exact List.forall_mem_singleton.mpr (by decide)
  · exact lt_of_mem_takeDigits _

/-- A number of too many digits becomes an `overlong` token. -/
theorem sound_of_takeMagnitude {negative : Bool}
    (h : takeMagnitude negative cs = some (token, rest)) : token.Sound := by
  unfold takeMagnitude at h
  dsimp only at h
  split at h
  · cases h
  split at h
  · cases h
    exact trivial
  split at h
  · cases h
    exact trivial
  next hlength =>
    cases h
    exact isShort_natAbs
      (isShort_ofDigits (lt_of_mem_takeWhole cs) (Nat.le_of_not_lt hlength)) negative

theorem sound_of_takeScalar? (h : takeScalar? cs = some (token, rest)) : token.Sound := by
  -- None of the words is a whole number.
  have hwords : ∀ entry ∈ words, entry.2.Sound := by simp [words, Sound]
  unfold takeScalar? at h
  split at h
  next found hfound =>
    cases h
    obtain ⟨⟨word, other⟩, hmem, hafter⟩ := List.exists_of_findSome?_eq_some hfound
    obtain ⟨after, -, heq⟩ := Option.map_eq_some_iff.mp hafter
    cases heq
    exact hwords _ hmem
  next =>
    split at h
    · exact sound_of_takeMagnitude h
    · exact sound_of_takeMagnitude h

theorem sound_of_next? (h : next? cs = some (token, rest)) : token.Sound := by
  unfold next? at h
  split at h
  case h_7 =>
    obtain ⟨units, -, heq⟩ := Option.map_eq_some_iff.mp h
    cases heq
    exact trivial
  case h_8 => exact sound_of_takeScalar? h
  all_goals
    cases h
    exact trivial

/-- The whole numbers among the tokens of a text are short. -/
theorem sound_of_mem_scan (cs : List Char) : ∀ token ∈ scan cs, token.Sound := by
  fun_induction scan cs with
  | case1 => exact List.forall_mem_nil _
  | case2 => exact List.forall_mem_singleton.mpr trivial
  | case3 cs c body hcs token rest hnext ih =>
      exact List.forall_mem_cons.mpr ⟨sound_of_next? hnext, ih⟩

end Token

namespace Reader

/-! ## What the reader holds -/

def Bracket.Sound : Bracket → Prop
  | .array items => ∀ item ∈ items, Json.Sound item
  | .object members _ => Json.Sound (.object members)

def Stage.Sound : Stage → Prop
  | .nextKey members => Json.Sound (.object members)
  | .colon members _ => Json.Sound (.object members)
  | .after json => Json.Sound json
  | _ => True

/-- Whether everything that was read so far is sound. -/
structure State.Sound (state : State) : Prop where
  stage : state.stage.Sound
  brackets : ∀ bracket ∈ state.brackets, bracket.Sound

variable {nesting : Nat} {state next : State} {token : Token} {brackets : List Bracket}

theorem sound_of_openBracket {stage : Stage} {excess : Excess}
    (h : State.openBracket nesting stage excess brackets = .ok next) (hstage : stage.Sound)
    (hbrackets : ∀ bracket ∈ brackets, bracket.Sound) : next.Sound := by
  unfold State.openBracket at h
  split at h
  · cases h
    exact ⟨hstage, hbrackets⟩
  · cases h

theorem sound_of_beginValue (h : State.beginValue nesting brackets token = .ok next)
    (htoken : token.Sound) (hbrackets : ∀ bracket ∈ brackets, bracket.Sound) : next.Sound := by
  cases token with
  | null => cases h; exact ⟨Json.Sound.null, hbrackets⟩
  | bool => cases h; exact ⟨Json.Sound.bool, hbrackets⟩
  | int => cases h; exact ⟨Json.Sound.int htoken, hbrackets⟩
  | float => cases h; exact ⟨Json.Sound.float, hbrackets⟩
  | string => cases h; exact ⟨Json.Sound.string, hbrackets⟩
  | beginArray => exact sound_of_openBracket h trivial hbrackets
  | beginObject => exact sound_of_openBracket h trivial hbrackets
  | _ => cases h

theorem sound_of_afterValue {value : Json}
    (h : State.afterValue value brackets token = .ok next) (hvalue : value.Sound)
    (hbrackets : ∀ bracket ∈ brackets, bracket.Sound) : next.Sound := by
  unfold State.afterValue at h
  split at h
  case h_1 items brackets =>
    cases h
    obtain ⟨hitems, hrest⟩ := List.forall_mem_cons.mp hbrackets
    refine ⟨trivial, List.forall_mem_cons.mpr ⟨?_, hrest⟩⟩
    exact List.forall_mem_cons.mpr ⟨hvalue, hitems⟩
  case h_2 items brackets =>
    cases h
    obtain ⟨hitems, hrest⟩ := List.forall_mem_cons.mp hbrackets
    refine ⟨Json.Sound.array fun item hitem => ?_, hrest⟩
    exact List.forall_mem_cons.mpr ⟨hvalue, hitems⟩ item (List.mem_reverse.mp hitem)
  case h_3 members key brackets =>
    cases h
    obtain ⟨hmembers, hrest⟩ := List.forall_mem_cons.mp hbrackets
    exact ⟨sound_put hmembers hvalue, hrest⟩
  case h_4 members key brackets =>
    cases h
    obtain ⟨hmembers, hrest⟩ := List.forall_mem_cons.mp hbrackets
    exact ⟨sound_put hmembers hvalue, hrest⟩
  case h_5 => cases h

/-- Every token keeps what was read sound. -/
theorem sound_of_feed (h : state.feed nesting token = .ok next) (htoken : token.Sound)
    (hstate : state.Sound) : next.Sound := by
  obtain ⟨stage, brackets⟩ := state
  obtain ⟨hstage, hbrackets⟩ := hstate
  have hempty : Json.Sound (.object []) := .object List.nodup_nil (by simp)
  cases stage with
  | value => exact sound_of_beginValue h htoken hbrackets
  | firstItem =>
      -- A value begins here as the first item of an array, unless the array is closed.
      have hnone : Bracket.Sound (.array []) := by simp [Bracket.Sound]
      have hitem (hbegin : State.beginItem nesting [] brackets token = .ok next) : next.Sound :=
        sound_of_beginValue hbegin htoken (List.forall_mem_cons.mpr ⟨hnone, hbrackets⟩)
      cases token with
      | endArray => cases h; exact ⟨Json.Sound.array hnone, hbrackets⟩
      | _ => exact hitem h
  | firstKey =>
      cases token with
      | endObject => cases h; exact ⟨hempty, hbrackets⟩
      | string key => cases h; exact ⟨hempty, hbrackets⟩
      | _ => cases h
  | nextKey members =>
      cases token with
      | string key => cases h; exact ⟨hstage, hbrackets⟩
      | _ => cases h
  | colon members key =>
      cases token with
      | colon => cases h; exact ⟨trivial, List.forall_mem_cons.mpr ⟨hstage, hbrackets⟩⟩
      | _ => cases h
  | after value => exact sound_of_afterValue h hstage hbrackets

theorem sound_of_foldlM_feed {tokens : List Token}
    (h : tokens.foldlM (State.feed nesting) state = .ok next)
    (htokens : ∀ token ∈ tokens, token.Sound) (hstate : state.Sound) : next.Sound := by
  induction tokens generalizing state with
  | nil => cases h; exact hstate
  | cons token tokens ih =>
      obtain ⟨htoken, htokens⟩ := List.forall_mem_cons.mp htokens
      rw [List.foldlM_cons] at h
      cases hfeed : state.feed nesting token with
      | error e => rw [hfeed] at h; cases h
      | ok middle =>
          rw [hfeed] at h
          exact ih h htokens (sound_of_feed hfeed htoken hstate)

theorem sound_of_finish {json : Json} (h : state.finish = .ok json) (hstate : state.Sound) :
    json.Sound := by
  unfold State.finish at h
  split at h
  case h_1 value hstage hbrackets =>
    cases h
    have hvalue := hstate.stage
    rwa [hstage] at hvalue
  case h_2 => cases h

end Reader

/-- What is read from a text is sound. -/
theorem sound_of_read {nesting : Nat} {cs : List Char} {json : Json}
    (h : read nesting cs = .ok json) : json.Sound := by
  rw [read, ofTokens] at h
  cases hfold : (Token.scan cs).foldlM (Reader.State.feed nesting) Reader.State.start with
  | error e => rw [hfold] at h; cases h
  | ok state =>
      rw [hfold] at h
      have hstart : Reader.State.start.Sound := ⟨trivial, by simp [Reader.State.start]⟩
      exact Reader.sound_of_finish h
        (Reader.sound_of_foldlM_feed hfold (Token.sound_of_mem_scan cs) hstart)

/-! ## Distinct keys -/

/-- Whether no object in a value has a key twice, however deep it stands. -/
inductive Distinct : Json → Prop
  | null : Distinct .null
  | bool {value : Bool} : Distinct (.bool value)
  | int {value : Int} : Distinct (.int value)
  | float {value : Binary64} : Distinct (.float value)
  | string {value : Letters} : Distinct (.string value)
  | array {items : List Json} (hitems : ∀ item ∈ items, Distinct item) : Distinct (.array items)
  | object {members : Table Letters Json} (hkeys : (Table.keys members).Nodup)
      (hmembers : ∀ member ∈ members, Distinct member.2) : Distinct (.object members)

attribute [simp] Distinct.null Distinct.bool Distinct.int Distinct.float Distinct.string

@[simp] theorem distinct_array_iff {items : List Json} :
    (array items).Distinct ↔ ∀ item ∈ items, item.Distinct := by
  constructor
  · intro h
    cases h with
    | array hitems => exact hitems
  · exact .array

@[simp] theorem distinct_object_iff {members : Table Letters Json} :
    (object members).Distinct ↔
      (Table.keys members).Nodup ∧ ∀ member ∈ members, member.2.Distinct := by
  constructor
  · intro h
    cases h with
    | object hkeys hmembers => exact ⟨hkeys, hmembers⟩
  · rintro ⟨hkeys, hmembers⟩
    exact .object hkeys hmembers

theorem Sound.distinct {json : Json} (h : json.Sound) : json.Distinct := by
  induction h with
  | null => exact .null
  | bool => exact .bool
  | int => exact .int
  | float => exact .float
  | string => exact .string
  | array _ ih => exact .array ih
  | object hkeys _ ih => exact .object hkeys ih

end Json

end Walkthrough

import Mathlib.Data.List.Nodup
import Walkthrough.Json.Reader
import Walkthrough.Proofs.Json.Token

/-!
# Reading undoes writing

What is written for a value is read as this value again, in every layout that breaks lines by blanks
and line ends only. This takes a value that can be written and read at all: its texts hold no
halves of characters, its whole numbers have no more digits than can be read, its objects have
distinct keys, and its brackets are not nested too deep. Floats are left out.

* `Json.Layout.IsBlank` — whether a layout adds nothing but blanks and line ends;
* `Json.Writable` — the values that can be written and read, by the depth of their brackets;
* `Json.Reader.Reads` — what reading a value that was written comes to, wherever it stands;
* `Json.Reader.reads` — every value that can be written is read like that;
* `Json.read_write` — the value of a text that was written for it.
-/

namespace Walkthrough

open Walkthrough.Number Walkthrough.Text

namespace Text.Letters

/-- Whether letters are blanks and line ends. -/
def IsBlank (letters : Letters) : Prop :=
  ∀ letter ∈ letters, letter = .char ' ' ∨ letter = .char '\n'

theorem isText_ofString (text : String) : (ofString text).IsText :=
  List.forall_mem_map.mpr fun _ _ => rfl

end Text.Letters

namespace Json

/-- Whether a layout adds nothing but blanks and line ends, and the colons. -/
structure Layout.IsBlank (layout : Layout) : Prop where
  lineBreak : ∀ depth, (layout.lineBreak depth).IsBlank
  colon : ∃ blanks : Letters, layout.colon = .char ':' :: blanks ∧ blanks.IsBlank

theorem Layout.isBlank_indented : Layout.indented.IsBlank where
  lineBreak depth := by
    intro letter hletter
    rcases List.mem_cons.mp hletter with rfl | hspace
    · exact .inr rfl
    · exact .inl (List.eq_of_mem_replicate hspace)
  colon := ⟨[.char ' '], rfl, by simp [Letters.IsBlank]⟩

/-- The values that can be written and read where so many brackets may still be opened. -/
inductive Writable : Nat → Json → Prop
  | null {room : Nat} : Writable room .null
  | bool {room : Nat} {value : Bool} : Writable room (.bool value)
  | int {room : Nat} {value : Int} (h : IsShort value.natAbs) :
      Writable room (.int value)
  | string {room : Nat} {value : Letters} (h : value.IsText) : Writable room (.string value)
  | array {room : Nat} {items : List Json} (hitems : ∀ item ∈ items, Writable room item) :
      Writable (room + 1) (.array items)
  | object {room : Nat} {members : Table Letters Json} (hkeys : (Table.keys members).Nodup)
      (htexts : ∀ member ∈ members, member.1.IsText)
      (hmembers : ∀ member ∈ members, Writable room member.2) :
      Writable (room + 1) (.object members)

variable {layout : Layout} {nesting room : Nat} {json : Json}

theorem writable_text (text : String) : (Json.text text).Writable room :=
  .string (Letters.isText_ofString text)

theorem writable_optional {name : Option Letters} (h : ∀ text ∈ name.toList, text.IsText) :
    (name.elim Json.null .string).Writable room := by
  cases name with
  | none => exact .null
  | some text => exact .string (h text (List.mem_singleton_self text))

theorem Writable.record {members : List (String × Json)} (hkeys : (members.map Prod.fst).Nodup)
    (h : ∀ member ∈ members, member.2.Writable room) :
    (Json.record members).Writable (room + 1) := by
  have hinj : Function.Injective Letters.ofString := fun a b h => Letters.ofString_inj.mp h
  refine .object ?_ (List.forall_mem_map.mpr fun member _ => Letters.isText_ofString member.1)
    (List.forall_mem_map.mpr h)
  have hnodup := hkeys.map hinj
  rw [List.map_map] at hnodup
  rw [Table.keys, List.map_map]
  exact hnodup

namespace Reader

variable {state next : State} {brackets : List Bracket} {cs rest : List Char} {token : Token}

/-! ## Following a text -/

/-- The state after the tokens of a text. -/
def State.follow (nesting : Nat) (state : State) (cs : List Char) : Except ReadError State :=
  (Token.scan cs).foldlM (State.feed nesting) state

theorem follow_token (hnext : Token.next? cs = some (token, rest))
    (hfeed : state.feed nesting token = .ok next) :
    state.follow nesting cs = next.follow nesting rest := by
  rw [State.follow, Token.scan_of_next? hnext, List.foldlM_cons, hfeed]
  rfl

theorem follow_blank {letters : Letters} (h : letters.IsBlank) (state : State)
    (rest : List Char) :
    state.follow nesting (letters.spelled ++ rest) = state.follow nesting rest := by
  induction letters with
  | nil => rfl
  | cons letter letters ih =>
      obtain ⟨hletter, hletters⟩ := List.forall_mem_cons.mp h
      rw [← ih hletters]
      rcases hletter with rfl | rfl
      · exact congrArg (List.foldlM (State.feed nesting) state) (Token.scan_space rfl _)
      · exact congrArg (List.foldlM (State.feed nesting) state) (Token.scan_space rfl _)

theorem endsNumber_blank {letters : Letters} (h : letters.IsBlank) (hrest : Token.EndsNumber rest) :
    Token.EndsNumber (letters.spelled ++ rest) := by
  cases letters with
  | nil => exact hrest
  | cons letter letters =>
      rcases h letter List.mem_cons_self with rfl | rfl
      · rintro c ⟨rfl⟩
        decide
      · rintro c ⟨rfl⟩
        decide

/-- Whether a state waits for a value inside brackets. At the start of an array the array may end
instead. -/
def State.Awaits (nesting : Nat) (state : State) (brackets : List Bracket) : Prop :=
  ∀ token, token ≠ .endArray →
    state.feed nesting token = State.beginValue nesting brackets token

theorem awaits_value : State.Awaits nesting ⟨.value, brackets⟩ brackets := fun _ _ => rfl

theorem awaits_firstItem :
    State.Awaits nesting ⟨.firstItem, brackets⟩ (.array [] :: brackets) := by
  intro token htoken
  cases token with
  | endArray => exact absurd rfl htoken
  | _ => rfl

/-- Reading a value that was written, wherever one is awaited, leads to this value. -/
def Reads (nesting : Nat) (layout : Layout) (room : Nat) (json : Json) : Prop :=
  ∀ (depth : Nat) (state : State) (brackets : List Bracket) (rest : List Char),
    state.Awaits nesting brackets → brackets.length + room ≤ nesting → Token.EndsNumber rest →
      state.follow nesting ((writeAt layout depth json).spelled ++ rest) =
        State.follow nesting ⟨.after json, brackets⟩ rest

/-! ## Arrays and objects -/

theorem endsNumber_comma : Token.EndsNumber (',' :: rest) := by
  rintro c ⟨rfl⟩
  decide

theorem endsNumber_close (hlayout : layout.IsBlank) (depth : Nat) (rest : List Char) :
    Token.EndsNumber ((layout.lineBreak depth).spelled ++ ']' :: rest) ∧
      Token.EndsNumber ((layout.lineBreak depth).spelled ++ '}' :: rest) := by
  constructor
  · refine endsNumber_blank (hlayout.lineBreak depth) ?_
    rintro c ⟨rfl⟩
    decide
  · refine endsNumber_blank (hlayout.lineBreak depth) ?_
    rintro c ⟨rfl⟩
    decide

theorem endsNumber_items (hlayout : layout.IsBlank) (depth inner : Nat) (items : List Json)
    (rest : List Char) :
    Token.EndsNumber ((writeItems layout inner items).spelled ++
      ((layout.lineBreak depth).spelled ++ ']' :: rest)) := by
  cases items with
  | nil => exact (endsNumber_close hlayout depth rest).1
  | cons item items => exact endsNumber_comma

theorem endsNumber_members (hlayout : layout.IsBlank) (depth inner : Nat)
    (members : List (Letters × Json)) (rest : List Char) :
    Token.EndsNumber ((writeMembers layout inner members).spelled ++
      ((layout.lineBreak depth).spelled ++ '}' :: rest)) := by
  cases members with
  | nil => exact (endsNumber_close hlayout depth rest).2
  | cons member members => exact endsNumber_comma

/-- The items of an array after one of them, and its end. -/
theorem follow_writeItems {items : List Json} (hlayout : layout.IsBlank)
    (hitems : ∀ item ∈ items, Reads nesting layout room item)
    (hroom : brackets.length + (room + 1) ≤ nesting) (depth inner : Nat) (value : Json)
    (before : List Json) (rest : List Char) :
    State.follow nesting ⟨.after value, .array before :: brackets⟩
        ((writeItems layout inner items).spelled ++
          ((layout.lineBreak depth).spelled ++ ']' :: rest)) =
      State.follow nesting ⟨.after (.array (before.reverse ++ value :: items)), brackets⟩ rest := by
  induction items generalizing value before with
  | nil =>
      have hend : State.follow nesting ⟨.after value, .array before :: brackets⟩ (']' :: rest) =
          State.follow nesting ⟨.after (.array (value :: before).reverse), brackets⟩ rest :=
        follow_token rfl rfl
      rw [writeItems, Letters.spelled_nil, List.nil_append,
        follow_blank (hlayout.lineBreak depth), hend, List.reverse_cons]
  | cons item items ih =>
      obtain ⟨hitem, hitems⟩ := List.forall_mem_cons.mp hitems
      have hcomma (text : List Char) :
          State.follow nesting ⟨.after value, .array before :: brackets⟩ (',' :: text) =
            State.follow nesting ⟨.value, .array (value :: before) :: brackets⟩ text :=
        follow_token rfl rfl
      have hread := hitem inner _ _ _ (@awaits_value nesting (.array (value :: before) :: brackets))
        (by rw [List.length_cons]; omega) (endsNumber_items hlayout depth inner items rest)
      rw [writeItems]
      simp only [List.cons_append, Letters.spelled_char, Letters.spelled_append, List.append_assoc]
      rw [hcomma, follow_blank (hlayout.lineBreak inner), hread, ih hitems, List.reverse_cons,
        List.append_assoc, List.singleton_append]

theorem put_of_nodup {before members : Table Letters Json} {key : Letters} {value : Json}
    (h : (Table.keys (before ++ (key, value) :: members)).Nodup) :
    before.put key value = before ++ [(key, value)] := by
  rw [Table.keys, List.map_append, List.nodup_append] at h
  exact Table.put_of_not_mem fun hmem => h.2.2 key hmem key List.mem_cons_self rfl

/-- The value of a member, where its key has been read. -/
theorem follow_member {value : Json} (hlayout : layout.IsBlank)
    (hvalue : Reads nesting layout room value)
    (hroom : brackets.length + (room + 1) ≤ nesting) {key : Letters} (hkey : key.IsText)
    {members : Table Letters Json} {stage : Stage}
    (hstage : State.feed nesting ⟨stage, brackets⟩ (.string key) =
      .ok ⟨.colon members key, brackets⟩)
    (inner : Nat) (hrest : Token.EndsNumber rest) :
    State.follow nesting ⟨stage, brackets⟩ ((writeText key).spelled ++
        (layout.colon.spelled ++ ((writeAt layout inner value).spelled ++ rest))) =
      State.follow nesting ⟨.after value, .object members key :: brackets⟩ rest := by
  obtain ⟨blanks, hcolon, hblanks⟩ := hlayout.colon
  have hnext (text : List Char) :
      State.follow nesting ⟨.colon members key, brackets⟩ (':' :: text) =
        State.follow nesting ⟨.value, .object members key :: brackets⟩ text :=
    follow_token rfl rfl
  rw [follow_token (Token.next?_writeText hkey _) hstage, hcolon, Letters.spelled_char,
    List.cons_append, hnext, follow_blank hblanks]
  exact hvalue inner _ _ _ awaits_value (by rw [List.length_cons]; omega) hrest

/-- The members of an object after one of them, and its end. -/
theorem follow_writeMembers {members : Table Letters Json} (hlayout : layout.IsBlank)
    (htexts : ∀ member ∈ members, member.1.IsText)
    (hmembers : ∀ member ∈ members, Reads nesting layout room member.2)
    (hroom : brackets.length + (room + 1) ≤ nesting) (depth inner : Nat) (key : Letters)
    (value : Json) (before : Table Letters Json)
    (hkeys : (Table.keys (before ++ (key, value) :: members)).Nodup) (rest : List Char) :
    State.follow nesting ⟨.after value, .object before key :: brackets⟩
        ((writeMembers layout inner members).spelled ++
          ((layout.lineBreak depth).spelled ++ '}' :: rest)) =
      State.follow nesting ⟨.after (.object (before ++ (key, value) :: members)), brackets⟩
        rest := by
  induction members generalizing key value before with
  | nil =>
      have hend :
          State.follow nesting ⟨.after value, .object before key :: brackets⟩ ('}' :: rest) =
            State.follow nesting ⟨.after (.object (before.put key value)), brackets⟩ rest :=
        follow_token rfl rfl
      rw [writeMembers, Letters.spelled_nil, List.nil_append,
        follow_blank (hlayout.lineBreak depth), hend, put_of_nodup hkeys]
  | cons member members ih =>
      obtain ⟨nextKey, nextValue⟩ := member
      obtain ⟨htext, htexts⟩ := List.forall_mem_cons.mp htexts
      obtain ⟨hmember, hmembers⟩ := List.forall_mem_cons.mp hmembers
      have hsplit : before ++ (key, value) :: (nextKey, nextValue) :: members =
          before.put key value ++ (nextKey, nextValue) :: members := by
        rw [put_of_nodup hkeys, List.append_assoc, List.singleton_append]
      have hcomma (text : List Char) :
          State.follow nesting ⟨.after value, .object before key :: brackets⟩ (',' :: text) =
            State.follow nesting ⟨.nextKey (before.put key value), brackets⟩ text :=
        follow_token rfl rfl
      have hstage :
          State.feed nesting ⟨.nextKey (before.put key value), brackets⟩ (.string nextKey) =
            .ok ⟨.colon (before.put key value) nextKey, brackets⟩ := rfl
      have hread := follow_member hlayout hmember hroom htext hstage inner
        (endsNumber_members hlayout depth inner members rest)
      rw [hsplit] at hkeys ⊢
      rw [writeMembers]
      simp only [List.cons_append, Letters.spelled_char, Letters.spelled_append, List.append_assoc]
      rw [hcomma, follow_blank (hlayout.lineBreak inner), hread,
        ih htexts hmembers nextKey nextValue (before.put key value) hkeys]

/-! ## All values -/

/-- A word of JSON is read as it was written. -/
theorem reads_of_word {token : Token} {word : List Char}
    (hwritten : ∀ depth, (writeAt layout depth json).spelled = word)
    (hnext : ∀ rest, Token.next? (word ++ rest) = some (token, rest))
    (htoken : token ≠ .endArray)
    (hvalue : ∀ brackets, State.beginValue nesting brackets token = .ok ⟨.after json, brackets⟩) :
    Reads nesting layout room json := by
  intro depth state brackets rest hawaits _ _
  rw [hwritten]
  exact follow_token (hnext rest) ((hawaits token htoken).trans (hvalue brackets))

theorem reads (hlayout : layout.IsBlank) (h : json.Writable room) :
    Reads nesting layout room json := by
  induction h with
  | null => exact reads_of_word (fun _ => rfl) (fun _ => rfl) nofun fun _ => rfl
  | @bool _ value =>
      cases value with
      | false => exact reads_of_word (fun _ => rfl) (fun _ => rfl) nofun fun _ => rfl
      | true => exact reads_of_word (fun _ => rfl) (fun _ => rfl) nofun fun _ => rfl
  | int hvalue =>
      intro depth state brackets rest hawaits _ hrest
      rw [writeAt]
      exact follow_token (Token.next?_writeInt hvalue hrest) (hawaits _ nofun)
  | string hvalue =>
      intro depth state brackets rest hawaits _ _
      rw [writeAt]
      exact follow_token (Token.next?_writeText hvalue rest) (hawaits _ nofun)
  | @array room items _ ih =>
      intro depth state brackets rest hawaits hroom _
      have hbegin (text : List Char) :
          state.follow nesting ('[' :: text) =
            State.follow nesting ⟨.firstItem, brackets⟩ text := by
        refine follow_token rfl ((hawaits .beginArray nofun).trans ?_)
        exact if_pos (by omega)
      cases items with
      | nil =>
          have hend : State.follow nesting ⟨.firstItem, brackets⟩ (']' :: rest) =
              State.follow nesting ⟨.after (.array []), brackets⟩ rest := follow_token rfl rfl
          exact (hbegin _).trans hend
      | cons item items =>
          obtain ⟨hitem, hitems⟩ := List.forall_mem_cons.mp ih
          have hfirst := hitem (depth + 1) _ _ _ (@awaits_firstItem nesting brackets)
            (by rw [List.length_cons]; omega)
            (endsNumber_items hlayout depth (depth + 1) items rest)
          rw [writeAt]
          simp only [List.cons_append, Letters.spelled_char, Letters.spelled_append,
            List.append_assoc, Letters.spelled_nil, List.nil_append]
          rw [hbegin, follow_blank (hlayout.lineBreak (depth + 1)), hfirst,
            follow_writeItems hlayout hitems hroom, List.reverse_nil, List.nil_append]
  | @object room members hkeys htexts _ ih =>
      intro depth state brackets rest hawaits hroom _
      have hbegin (text : List Char) :
          state.follow nesting ('{' :: text) =
            State.follow nesting ⟨.firstKey, brackets⟩ text := by
        refine follow_token rfl ((hawaits .beginObject nofun).trans ?_)
        exact if_pos (by omega)
      cases members with
      | nil =>
          have hend : State.follow nesting ⟨.firstKey, brackets⟩ ('}' :: rest) =
              State.follow nesting ⟨.after (.object []), brackets⟩ rest := follow_token rfl rfl
          exact (hbegin _).trans hend
      | cons member members =>
          obtain ⟨key, value⟩ := member
          obtain ⟨htext, htexts⟩ := List.forall_mem_cons.mp htexts
          obtain ⟨hvalue, hvalues⟩ := List.forall_mem_cons.mp ih
          have hstage : State.feed nesting ⟨.firstKey, brackets⟩ (.string key) =
              .ok ⟨.colon [] key, brackets⟩ := rfl
          have hfirst := follow_member hlayout hvalue hroom htext hstage (depth + 1)
            (endsNumber_members hlayout depth (depth + 1) members rest)
          rw [writeAt]
          simp only [List.cons_append, Letters.spelled_char, Letters.spelled_append,
            List.append_assoc, Letters.spelled_nil, List.nil_append]
          rw [hbegin, follow_blank (hlayout.lineBreak (depth + 1)), hfirst,
            follow_writeMembers hlayout htexts hvalues hroom _ _ _ _ _ hkeys, List.nil_append]

end Reader

/-- A value is read as it was written, whatever blanks come after it. -/
theorem read_write (hlayout : layout.IsBlank) (h : json.Writable nesting) {blanks : Letters}
    (hblanks : blanks.IsBlank) :
    read nesting ((write layout json).spelled ++ blanks.spelled) = .ok json := by
  have hends : Token.EndsNumber (blanks.spelled ++ []) := Reader.endsNumber_blank hblanks nofun
  have hread := Reader.reads hlayout h 0 .start [] _ Reader.awaits_value (Nat.zero_add _).le hends
  rw [Reader.follow_blank hblanks, List.append_nil] at hread
  have hnil : Token.scan [] = [] := by
    rw [Token.scan]
    rfl
  rw [Reader.State.follow, Reader.State.follow, hnil] at hread
  rw [read, ofTokens, write, hread]
  rfl

end Json

end Walkthrough

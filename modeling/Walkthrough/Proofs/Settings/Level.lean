import Mathlib.Data.Nat.Digits.Defs
import Mathlib.Tactic.ByContra
import Walkthrough.Settings

/-!
# Texts as log levels

A log level is set to a number or to a name, and what is neither counts as the level of warnings. The
digits of a number may be of any script, and a name may be written with any letters whose upper case
it is. There are digits that build no number: those that are no decimal digits, and too many of them.
These are errors.

* `LeadsWith` — the decimal digits that a text starts with;
* `UpperCases` — what upper case is, as far as the names of levels can tell;
* `LevelText` — what a text stands for, rule by rule;
* `readLevel_eq_iff` — what is read is what the rules say;
* `exists_error_iff` — the texts that are errors.
-/

namespace Walkthrough

open Walkthrough.Text

/-! ## Digits -/

/-- `LeadsWith text digits rest`: the text starts with decimal digits that have these values, and
with no further one; the rest comes after them. -/
def LeadsWith (text : List Char) (digits : List Nat) (rest : List Char) : Prop :=
  ∃ run, text = run ++ rest ∧ run.map decimalDigit? = digits.map some ∧
    ∀ c ∈ rest.head?, decimalDigit? c = none

section Digits

variable {text rest : List Char} {digits : List Nat}

theorem leadsWith_iff :
    LeadsWith text digits rest ↔ Number.takeDigits decimalDigit? text = (digits, rest) := by
  constructor
  · rintro ⟨run, rfl, hrun, hrest⟩
    induction run generalizing digits with
    | nil =>
        obtain rfl : digits = [] := List.map_eq_nil_iff.mp hrun.symm
        cases rest with
        | nil => rfl
        | cons c rest =>
            rw [List.nil_append, Number.takeDigits, hrest c rfl]
    | cons c run ih =>
        obtain ⟨d, digits, rfl, hc, hrun⟩ := List.map_eq_cons_iff.mp hrun.symm
        rw [List.cons_append, Number.takeDigits, ← hc, ih hrun.symm]
  · intro h
    induction text generalizing digits with
    | nil =>
        cases h
        exact ⟨[], rfl, rfl, fun c hc => absurd hc (Option.not_mem_none c)⟩
    | cons c text ih =>
        rw [Number.takeDigits] at h
        split at h
        · rename_i hc
          cases h
          exact ⟨[], rfl, rfl, fun d hd => Option.some.inj hd ▸ hc⟩
        · rename_i d hc
          obtain ⟨rfl, rfl⟩ := Prod.mk.inj h
          obtain ⟨run, htext, hrun, hrest⟩ := ih rfl
          refine ⟨c :: run, ?_, ?_, hrest⟩
          · rw [List.cons_append, ← htext]
          · rw [List.map_cons, hc, hrun, List.map_cons]

theorem exists_leadsWith (text : List Char) : ∃ digits rest, LeadsWith text digits rest :=
  ⟨_, _, leadsWith_iff.mpr rfl⟩

theorem LeadsWith.length_eq (h : LeadsWith text digits rest) :
    text.length = digits.length + rest.length := by
  obtain ⟨run, rfl, hrun, -⟩ := h
  have hlength := congrArg List.length hrun
  rw [List.length_map, List.length_map] at hlength
  rw [List.length_append, hlength]

theorem leadsWith_nil_iff : LeadsWith text digits [] ↔ text.map decimalDigit? = digits.map some := by
  constructor
  · rintro ⟨run, rfl, hrun, -⟩
    rw [List.append_nil, hrun]
  · intro h
    exact ⟨text, (List.append_nil text).symm, h, nofun⟩

theorem ofDigits_eq (digits : List Nat) :
    Number.ofDigits digits = Nat.ofDigits 10 digits.reverse := by
  rw [Number.ofDigits, List.foldl_eq_foldr_reverse, Nat.ofDigits_eq_foldr]
  refine congrArg (fun step => List.foldr step 0 digits.reverse) ?_
  funext d n
  exact Nat.add_comm _ _

end Digits

/-! ## Names -/

/-- Whether the upper case of a letter is one letter of ASCII, or the letter is of ASCII itself. -/
def HasPlainUpper (c : Char) : Prop := c.toNat < 0x80 ∨ c = 'ı' ∨ c = 'ſ'

/-- What the letters become in upper case that become several letters of ASCII. -/
def ligatures : List String := ["SS", "FF", "FI", "FL", "FFI", "FFL", "ST"]

/-- What is said here of upper case, letter by letter: it is the usual one within ASCII, two more
letters become one letter of ASCII, some become ligatures, and what becomes of any other is not all of
ASCII. -/
structure UpperCases (upper : Char → List Char) : Prop where
  ascii : ∀ c, c.toNat < 0x80 → upper c = [c.toUpper]
  dotless : upper 'ı' = ['I']
  long : upper 'ſ' = ['S']
  other : ∀ c, ¬HasPlainUpper c →
    (∃ ligature ∈ ligatures, upper c = ligature.toList) ∨ ∃ d ∈ upper c, 0x80 ≤ d.toNat

section Names

variable {upper : Char → List Char} {c : Char} {text : List Char} {name : String}

theorem not_hasPlainUpper_iff : ¬HasPlainUpper c ↔ 0x80 ≤ c.toNat ∧ c ≠ 'ı' ∧ c ≠ 'ſ' := by
  rw [HasPlainUpper, not_or, not_or, Nat.not_lt]

theorem toUpper_eq_self (h : c.toNat < 97 ∨ 122 < c.toNat) : c.toUpper = c := by
  refine dif_neg fun hletter => ?_
  have hfirst : 97 ≤ c.toNat := UInt32.le_iff_toNat_le.mp hletter.1
  have hlast : c.toNat ≤ 122 := UInt32.le_iff_toNat_le.mp hletter.2
  omega

theorem upperLetter_of_ascii (h : c.toNat < 0x80) : upperLetter c = c.toUpper := by
  have hne {d : Char} (hd : 0x80 ≤ d.toNat) : c ≠ d := by
    rintro rfl
    exact absurd h (Nat.not_lt.mpr hd)
  rw [upperLetter, if_neg (hne (by decide)), if_neg (hne (by decide))]

theorem upperLetter_of_not_hasPlainUpper (h : ¬HasPlainUpper c) : upperLetter c = c := by
  obtain ⟨hwide, hdotless, hlong⟩ := not_hasPlainUpper_iff.mp h
  rw [upperLetter, if_neg hdotless, if_neg hlong, toUpper_eq_self (.inr (by omega))]

/-- Upper case as it is read here is one of these. -/
theorem upperCases_upperLetter : UpperCases fun c => [upperLetter c] where
  ascii c h := congrArg (fun d => [d]) (upperLetter_of_ascii h)
  dotless := rfl
  long := rfl
  other c h := by
    refine .inr ⟨upperLetter c, List.mem_singleton_self _, ?_⟩
    rw [upperLetter_of_not_hasPlainUpper h]
    exact (not_hasPlainUpper_iff.mp h).1

theorem UpperCases.eq_singleton (hupper : UpperCases upper) (h : HasPlainUpper c) :
    upper c = [upperLetter c] := by
  rcases h with hascii | rfl | rfl
  · rw [hupper.ascii c hascii, upperLetter_of_ascii hascii]
  · exact hupper.dotless
  · exact hupper.long

theorem lt_of_mem_name (hname : name ∈ levelNames.map Prod.fst) :
    ∀ c ∈ name.toList, c.toNat < 0x80 := by
  have hall : ∀ name ∈ levelNames.map Prod.fst, name.toList.all (·.toNat < 0x80) = true := by
    decide
  exact fun c hc => of_decide_eq_true (List.all_eq_true.mp (hall name hname) c hc)

theorem not_infix_name (hname : name ∈ levelNames.map Prod.fst) :
    ∀ ligature ∈ ligatures, ¬ligature.toList <:+: name.toList := by
  have hall : ∀ name ∈ levelNames.map Prod.fst, ∀ ligature ∈ ligatures,
      ¬ligature.toList <:+: name.toList := by decide +kernel
  exact hall name hname

/-- Whether a text is the name of a level in upper case does not depend on the other letters. -/
theorem UpperCases.flatMap_eq_iff (hupper : UpperCases upper)
    (hname : name ∈ levelNames.map Prod.fst) :
    text.flatMap upper = name.toList ↔ text.map upperLetter = name.toList := by
  have hsame (hplain : ∀ c ∈ text, HasPlainUpper c) : text.flatMap upper = text.map upperLetter := by
    rw [List.map_eq_flatMap, List.flatMap, List.flatMap,
      List.map_congr_left fun c hc => hupper.eq_singleton (hplain c hc)]
  constructor
  · intro h
    rw [← hsame, h]
    intro c hc
    by_contra hplain
    -- What becomes of a letter is a piece of the name, and the names hold nothing but plain letters.
    have hpiece : upper c <:+: name.toList := by
      obtain ⟨before, after, rfl⟩ := List.append_of_mem hc
      exact ⟨before.flatMap upper, after.flatMap upper, by simpa using h⟩
    rcases hupper.other c hplain with ⟨ligature, hligature, heq⟩ | ⟨d, hd, hwide⟩
    · exact not_infix_name hname ligature hligature (heq ▸ hpiece)
    · exact absurd (lt_of_mem_name hname d (hpiece.subset hd)) (Nat.not_lt.mpr hwide)
  · intro h
    rw [hsame, h]
    intro c hc
    by_contra hplain
    have hmem : upperLetter c ∈ name.toList := h ▸ List.mem_map_of_mem hc
    rw [upperLetter_of_not_hasPlainUpper hplain] at hmem
    exact hplain (.inl (lt_of_mem_name hname c hmem))

/-- A sign of a digit is its own upper case. -/
theorem upperLetter_of_isDigitSign (h : isDigitSign c = true) : upperLetter c = c := by
  have hne {d : Char} (hd : isDigitSign d = false) : c ≠ d := by
    rintro rfl
    rw [h] at hd
    cases hd
  have hletters : ∀ k < 26, isDigitSign (Char.ofNat (97 + k)) = false := by decide
  have hnot : c.toNat < 97 ∨ 122 < c.toNat := by
    by_contra hletter
    refine hne (hletters (c.toNat - 97) (by omega)) ?_
    rw [Nat.add_sub_cancel' (by omega), Char.ofNat_toNat]
  rw [upperLetter, if_neg (hne (by decide)), if_neg (hne (by decide)), toUpper_eq_self hnot]

/-- A text that a level is named by is not made of digits. -/
theorem exists_not_isDigitSign (hname : name ∈ levelNames.map Prod.fst)
    (h : text.map upperLetter = name.toList) : ∃ c ∈ text, isDigitSign c = false := by
  have hnames : ∀ name ∈ levelNames.map Prod.fst, name.toList ≠ [] ∧
      name.toList.all (!isDigitSign ·) = true := by decide
  obtain ⟨hne, hall⟩ := hnames name hname
  cases text with
  | nil => exact absurd h.symm hne
  | cons c text =>
      refine ⟨c, List.mem_cons_self, Bool.eq_false_iff.mpr fun hc => ?_⟩
      have hmem : upperLetter c ∈ name.toList := h ▸ List.mem_cons_self
      rw [upperLetter_of_isDigitSign hc] at hmem
      have hnot := List.all_eq_true.mp hall c hmem
      rw [hc] at hnot
      cases hnot

end Names

/-! ## What a text stands for -/

/-- `LevelText upper text result`: what becomes of a log level that is set to a text between blanks. -/
inductive LevelText (upper : Char → List Char) (text : List Char) : Except LevelError Int → Prop
  /-- Decimal digits stand for their number, if there are not too many. -/
  | number {digits : List Nat} (hne : text ≠ []) (hdigits : text.map decimalDigit? = digits.map some)
      (hcount : digits.length ≤ Number.digitLimit) :
      LevelText upper text (.ok (Nat.ofDigits 10 digits.reverse : Nat))
  /-- The names of the levels may be written in any letter case. -/
  | name {name : String} {level : Int} (hname : (name, level) ∈ levelNames)
      (hupper : text.flatMap upper = name.toList) : LevelText upper text (.ok level)
  | unknown (hsigns : ∃ c ∈ text, isDigitSign c = false)
      (hnames : ∀ entry ∈ levelNames, text.flatMap upper ≠ entry.1.toList) :
      LevelText upper text (.ok 30)
  /-- Too many decimal digits are an error, whatever other digits come after them. -/
  | overlong {digits : List Nat} {rest : List Char} (hsigns : ∀ c ∈ text, isDigitSign c = true)
      (hlead : LeadsWith text digits rest) (hcount : Number.digitLimit < digits.length) :
      LevelText upper text (.error (.overlong digits.length))
  | notDecimal {digits : List Nat} {rest : List Char} (hsigns : ∀ c ∈ text, isDigitSign c = true)
      (hlead : LeadsWith text digits rest) (hcount : digits.length ≤ Number.digitLimit)
      (hrest : rest ≠ []) : LevelText upper text (.error (.notDecimal (String.ofList text)))

section Level

variable {upper : Char → List Char} {text rest : List Char} {digits : List Nat}
variable {result : Except LevelError Int}

theorem isDigitSign_of_decimalDigit? {c : Char} {d : Nat} (h : decimalDigit? c = some d) :
    isDigitSign c = true := by
  rw [isDigitSign, h]
  rfl

theorem readLevel_of_signs (hne : text ≠ []) (hsigns : ∀ c ∈ text, isDigitSign c = true) :
    readLevel (String.ofList text) = readDigits (String.ofList text) := by
  rw [readLevel, String.toList_ofList, if_pos]
  exact ⟨mt String.ofList_eq_empty_iff.mp hne, List.all_eq_true.mpr hsigns⟩

theorem readLevel_of_not_signs (hsigns : ∃ c ∈ text, isDigitSign c = false) :
    readLevel (String.ofList text) =
      .ok ((levelNames.lookup (String.ofList (text.map upperLetter))).getD 30) := by
  rw [readLevel, String.toList_ofList, if_neg]
  · rfl
  · rintro ⟨-, hall⟩
    obtain ⟨c, hc, hsign⟩ := hsigns
    rw [List.all_eq_true.mp hall c hc] at hsign
    cases hsign

theorem readDigits_of_leadsWith (h : LeadsWith text digits rest) :
    readDigits (String.ofList text) =
      if Number.digitLimit < digits.length then .error (.overlong digits.length)
      else if rest ≠ [] then .error (.notDecimal (String.ofList text))
      else .ok (Nat.ofDigits 10 digits.reverse : Nat) := by
  rw [readDigits, String.toList_ofList, leadsWith_iff.mp h, ← ofDigits_eq]

theorem lookup_levelNames {name : String} {level : Int} (h : (name, level) ∈ levelNames) :
    levelNames.lookup name = some level := by
  have hall : ∀ entry ∈ levelNames, levelNames.lookup entry.1 = some entry.2 := by decide
  exact hall _ h

/-- Each rule says what is read. -/
theorem LevelText.readLevel_eq (hupper : UpperCases upper) (h : LevelText upper text result) :
    readLevel (String.ofList text) = result := by
  cases h with
  | @number digits hne hdigits hcount =>
      have hsigns : ∀ c ∈ text, isDigitSign c = true := by
        intro c hc
        have hmem : decimalDigit? c ∈ digits.map some := hdigits ▸ List.mem_map_of_mem hc
        obtain ⟨d, -, hd⟩ := List.mem_map.mp hmem
        exact isDigitSign_of_decimalDigit? hd.symm
      rw [readLevel_of_signs hne hsigns, readDigits_of_leadsWith (leadsWith_nil_iff.mpr hdigits),
        if_neg (Nat.not_lt.mpr hcount), if_neg (not_not_intro rfl)]
  | @name name level hname hcase =>
      have hmem : name ∈ levelNames.map Prod.fst := List.mem_map_of_mem hname
      have hletters := (hupper.flatMap_eq_iff hmem).mp hcase
      rw [readLevel_of_not_signs (exists_not_isDigitSign hmem hletters), hletters,
        String.ofList_toList, lookup_levelNames hname]
      rfl
  | unknown hsigns hnames =>
      have hnone : levelNames.lookup (String.ofList (text.map upperLetter)) = none := by
        rw [List.lookup_eq_none_iff]
        intro entry hentry
        refine bne_iff_ne.mpr fun heq => hnames entry hentry ?_
        rw [hupper.flatMap_eq_iff (List.mem_map_of_mem hentry), ← heq, String.toList_ofList]
      rw [readLevel_of_not_signs hsigns, hnone]
      rfl
  | overlong hsigns hlead hcount =>
      have hne : text ≠ [] := by
        have hlength := hlead.length_eq
        rw [← List.length_pos_iff]
        omega
      rw [readLevel_of_signs hne hsigns, readDigits_of_leadsWith hlead, if_pos hcount]
  | @notDecimal digits rest hsigns hlead hcount hrest =>
      have hne : text ≠ [] := by
        have hlength := hlead.length_eq
        rw [← List.length_pos_iff] at hrest ⊢
        omega
      rw [readLevel_of_signs hne hsigns, readDigits_of_leadsWith hlead,
        if_neg (Nat.not_lt.mpr hcount), if_pos hrest]

/-- What is read is said by some rule. -/
theorem levelText_readLevel (hupper : UpperCases upper) (hne : text ≠ []) :
    LevelText upper text (readLevel (String.ofList text)) := by
  by_cases hsigns : ∀ c ∈ text, isDigitSign c = true
  · obtain ⟨digits, rest, hlead⟩ := exists_leadsWith text
    rw [readLevel_of_signs hne hsigns, readDigits_of_leadsWith hlead]
    split
    · rename_i hcount
      exact .overlong hsigns hlead hcount
    · rename_i hcount
      have hcount := Nat.le_of_not_lt hcount
      split
      · rename_i hrest
        exact .notDecimal hsigns hlead hcount hrest
      · rename_i hrest
        obtain rfl := not_not.mp hrest
        exact .number hne (leadsWith_nil_iff.mp hlead) hcount
  · have hother : ∃ c ∈ text, isDigitSign c = false := by simpa using hsigns
    rw [readLevel_of_not_signs hother]
    cases hlookup : levelNames.lookup (String.ofList (text.map upperLetter)) with
    | none =>
        refine .unknown hother fun entry hentry heq => ?_
        rw [hupper.flatMap_eq_iff (List.mem_map_of_mem hentry)] at heq
        have hdiffers := List.lookup_eq_none_iff.mp hlookup entry hentry
        rw [heq, String.ofList_toList] at hdiffers
        exact bne_iff_ne.mp hdiffers rfl
    | some level =>
        obtain ⟨before, after, hnames, -⟩ := List.lookup_eq_some_iff.mp hlookup
        have hname : (String.ofList (text.map upperLetter), level) ∈ levelNames := by
          rw [hnames]
          exact List.mem_append_right _ List.mem_cons_self
        refine .name hname ((hupper.flatMap_eq_iff (List.mem_map_of_mem hname)).mpr ?_)
        exact String.toList_ofList.symm

theorem readLevel_eq_iff (hupper : UpperCases upper) (hne : text ≠ []) :
    readLevel (String.ofList text) = result ↔ LevelText upper text result :=
  ⟨fun h => h ▸ levelText_readLevel hupper hne, fun h => h.readLevel_eq hupper⟩

/-- Digits that build no number: one of them is no decimal digit, or there are too many. -/
def BuildsNoNumber (text : List Char) : Prop :=
  (∀ c ∈ text, isDigitSign c = true) ∧
    ((∃ c ∈ text, decimalDigit? c = none) ∨ Number.digitLimit < text.length)

/-- A text stands for an error just if it is made of digits that build no number. -/
theorem exists_error_iff :
    (∃ error, LevelText upper text (.error error)) ↔ BuildsNoNumber text := by
  constructor
  · rintro ⟨error, h⟩
    cases h with
    | overlong hsigns hlead hcount =>
        have hlength := hlead.length_eq
        exact ⟨hsigns, .inr (by omega)⟩
    | notDecimal hsigns hlead hcount hrest =>
        obtain ⟨run, rfl, -, hstop⟩ := hlead
        obtain ⟨c, rest, rfl⟩ := List.exists_cons_of_ne_nil hrest
        exact ⟨hsigns, .inl ⟨c, List.mem_append_right _ List.mem_cons_self, hstop c rfl⟩⟩
  · rintro ⟨hsigns, hfault⟩
    obtain ⟨digits, rest, hlead⟩ := exists_leadsWith text
    by_cases hcount : Number.digitLimit < digits.length
    · exact ⟨_, .overlong hsigns hlead hcount⟩
    · refine ⟨_, .notDecimal hsigns hlead (Nat.le_of_not_lt hcount) ?_⟩
      rintro rfl
      rcases hfault with ⟨c, hc, hnone⟩ | hlong
      · have hmem : decimalDigit? c ∈ digits.map some :=
          leadsWith_nil_iff.mp hlead ▸ List.mem_map_of_mem hc
        rw [hnone] at hmem
        simp at hmem
      · rw [hlead.length_eq] at hlong
        exact hcount hlong

end Level

end Walkthrough

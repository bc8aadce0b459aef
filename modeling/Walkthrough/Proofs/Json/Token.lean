import Walkthrough.Json.Token
import Walkthrough.Json.Writer
import Walkthrough.Proofs.Number.Short
import Walkthrough.Proofs.Text.Utf8

/-!
# Tokens as they are written

What is written for a text or for a whole number is read as a single token, whatever follows. A
text ends at its quotation mark, since none is left in it that is not escaped. A whole number ends
before anything that does not go on with it.

* `Json.escapeChar_cases` — the ways in which a character is written;
* `Json.Token.next?_writeText` — a text is one token;
* `Json.Token.EndsNumber` — what a number ends before;
* `Json.Token.next?_writeInt` — a short whole number is one token;
* `Json.Token.scan_of_next?`, `Json.Token.scan_space` — the tokens of a text, one by one.
-/

namespace Walkthrough

open Walkthrough.Text

namespace Json

open Walkthrough.Number

/-- A character is written after a backslash, as a number of four digits, or as it is. -/
theorem escapeChar_cases (c : Char) :
    (∃ d, escapeChar c = ['\\', d] ∧ d ≠ 'u' ∧ Token.escaped? d = some c) ∨
      (escapeChar c = '\\' :: 'u' :: hexDigits 4 c.toNat ∧ c.toNat < 0x20) ∨
      (escapeChar c = [c] ∧ c ≠ '"' ∧ c ≠ '\\' ∧ 0x20 ≤ c.toNat) := by
  unfold escapeChar
  by_cases hself : c = '"' ∨ c = '\\'
  · rw [if_pos hself]
    rcases hself with rfl | rfl
    · exact .inl ⟨_, rfl, by decide, rfl⟩
    · exact .inl ⟨_, rfl, by decide, rfl⟩
  rw [if_neg hself]
  obtain ⟨hquote, hslash⟩ := not_or.mp hself
  split
  next h => exact .inl ⟨_, rfl, by decide, h ▸ rfl⟩
  split
  next h => exact .inl ⟨_, rfl, by decide, h ▸ rfl⟩
  split
  next h => exact .inl ⟨_, rfl, by decide, h ▸ rfl⟩
  split
  next h => exact .inl ⟨_, rfl, by decide, h ▸ rfl⟩
  split
  next h => exact .inl ⟨_, rfl, by decide, h ▸ rfl⟩
  split
  next h => exact .inr (.inl ⟨rfl, h⟩)
  next h => exact .inr (.inr ⟨rfl, hquote, hslash, Nat.le_of_not_lt h⟩)

namespace Token

variable {c : Char} {cs rest : List Char} {token : Token}

/-! ## Texts -/

/-- Control characters are read as they were written. -/
theorem hexUnit?_hexDigits {n : Nat} (hn : n < 0x20) :
    ∃ a b c d, hexDigits 4 n = [a, b, c, d] ∧ hexUnit? a b c d = some n := by
  refine ⟨_, _, _, _, rfl, ?_⟩
  revert n
  decide

/-- A character is read as it was written. -/
theorem takeUnits_escapeChar (c : Char) (cs : List Char) :
    takeUnits (escapeChar c ++ cs) =
      (takeUnits cs).map fun (units, after) => (c.toNat :: units, after) := by
  rcases escapeChar_cases c with ⟨d, hwritten, hd, hescaped⟩ | ⟨hwritten, hcontrol⟩ |
    ⟨hwritten, hquote, hslash, hcontrol⟩
  · rw [hwritten]
    show takeUnits ('\\' :: d :: cs) = _
    rw [takeUnits.eq_4 d cs (by rintro _ _ _ _ _ rfl; exact absurd rfl hd), hescaped]
    cases takeUnits cs <;> rfl
  · obtain ⟨x, y, z, w, hdigits, hunit⟩ := hexUnit?_hexDigits hcontrol
    rw [hwritten, hdigits]
    show takeUnits ('\\' :: 'u' :: x :: y :: z :: w :: cs) = _
    rw [takeUnits, hunit]
    cases takeUnits cs <;> rfl
  · rw [hwritten]
    show takeUnits (c :: cs) = _
    rw [takeUnits, if_neg (Nat.not_lt.mpr hcontrol)]
    · exact hquote
    · rintro _ _ _ _ _ rfl
      exact absurd rfl hslash
    · rintro _ _ rfl
      exact absurd rfl hslash

theorem takeUnits_escaped (cs rest : List Char) :
    takeUnits (cs.flatMap escapeChar ++ '"' :: rest) = some (cs.map Char.toNat, rest) := by
  induction cs with
  | nil => rfl
  | cons c cs ih =>
      rw [List.flatMap_cons, List.append_assoc, takeUnits_escapeChar, ih]
      rfl

/-- The codes of characters stand for just these characters, since none is the code of a half. -/
theorem ofUnits_map (cs : List Char) : Letters.ofUnits (cs.map Char.toNat) = cs.map .char := by
  have houtside (c : Char) : ¬(0xD800 ≤ c.toNat ∧ c.toNat < 0xE000) := by
    rintro ⟨hlow, hhigh⟩
    rcases c.valid with h | h
    · exact absurd h (Nat.not_lt.mpr hlow)
    · exact absurd h.1 (Nat.not_lt.mpr (Nat.le_of_lt_succ hhigh))
  have hcode (c : Char) : Letter.ofCode c.toNat = .char c := by
    rw [Letter.ofCode, dif_neg (houtside c), Char.ofNat_toNat]
  induction cs with
  | nil => rfl
  | cons c cs ih =>
      cases cs with
      | nil => exact congrArg ([·]) (hcode c)
      | cons d cs =>
          rw [List.map_cons, List.map_cons, Letters.ofUnits, if_neg, hcode]
          · exact congrArg (.char c :: ·) ih
          · rintro ⟨hlow, hhigh, -⟩
            exact houtside c ⟨hlow, by omega⟩

theorem spelled_writeText (cs : List Char) :
    (writeText (cs.map .char)).spelled = '"' :: (cs.flatMap escapeChar ++ ['"']) := by
  have hescaped : Letters.spelled ((cs.map Letter.char).flatMap escapeLetter) =
      cs.flatMap escapeChar := by
    induction cs with
    | nil => rfl
    | cons c cs ih =>
        rw [List.map_cons, List.flatMap_cons, Letters.spelled_append, ih, List.flatMap_cons]
        exact congrArg (· ++ _) (Letters.spelled_map _)
  rw [writeText, List.cons_append, Letters.spelled_char, Letters.spelled_append, hescaped]
  rfl

/-- A text is read as it was written. -/
theorem next?_writeText {value : Letters} (h : value.IsText) (rest : List Char) :
    next? ((writeText value).spelled ++ rest) = some (.string value, rest) := by
  rw [Letters.isText_iff.mp h, spelled_writeText, List.cons_append, List.append_assoc]
  show (takeUnits (value.spelled.flatMap escapeChar ++ '"' :: rest)).map _ = _
  rw [takeUnits_escaped, Option.map_some]
  simp only [ofUnits_map]

/-! ## Whole numbers -/

/-- Whether a whole number that stands before a text ends there. -/
def EndsNumber (cs : List Char) : Prop :=
  ∀ c ∈ cs.head?, digit? c = none ∧ c ≠ '.' ∧ c ≠ 'e' ∧ c ≠ 'E'

theorem takeDigits_append (hcs : ∀ c ∈ cs, c.isDigit = true) (hrest : EndsNumber rest) :
    takeDigits digit? (cs ++ rest) = (cs.map fun c => c.toNat - '0'.toNat, rest) := by
  induction cs with
  | nil =>
      cases rest with
      | nil => rfl
      | cons c rest =>
          rw [List.nil_append, takeDigits, (hrest c rfl).1]
          rfl
  | cons c cs ih =>
      obtain ⟨hc, hcs⟩ := List.forall_mem_cons.mp hcs
      have hdigit : digit? c = some (c.toNat - '0'.toNat) := if_pos hc
      rw [List.cons_append, takeDigits, hdigit, ih hcs]
      rfl

theorem takeFraction_of_endsNumber (h : EndsNumber rest) :
    takeFraction digit? 1 rest = ([], rest) := by
  cases rest with
  | nil => rfl
  | cons c rest =>
      rw [takeFraction]
      intro _ hpoint
      exact (h c rfl).2.1 (List.cons.inj hpoint).1

theorem takeExponent_of_endsNumber (h : EndsNumber rest) :
    takeExponent digit? rest = (none, rest) := by
  cases rest with
  | nil => rfl
  | cons c rest =>
      have hletter : ¬(c = 'e' ∨ c = 'E') := not_or.mpr (h c rfl).2.2
      rw [takeExponent]
      simp only [hletter, false_and, if_false]

theorem ofDigits_toDigits (n : Nat) :
    ofDigits ((Nat.toDigits 10 n).map fun c => c.toNat - '0'.toNat) = n := by
  rw [ofDigits, List.foldl_map]
  exact Nat.ofDigitChars_toDigits (by decide) (by decide)

theorem toDigits_ne_nil (n : Nat) : Nat.toDigits 10 n ≠ [] :=
  List.ne_nil_of_length_pos Nat.length_toDigits_pos

/-- Of all whole numbers only zero is written with a zero in front. -/
theorem head?_toDigits {n : Nat} (hn : 0 < n) : (Nat.toDigits 10 n).head? ≠ some '0' := by
  induction n using Nat.strong_induction_on with
  | _ n ih =>
      by_cases hsmall : n < 10
      · rw [Nat.toDigits_of_lt_base hsmall, List.head?_cons, ne_eq, Option.some.injEq,
          Nat.digitChar_eq_zero]
        omega
      · have hhead := ih (n / 10) (by omega) (by omega)
        rw [Nat.toDigits_of_base_le (by decide) (by omega), List.head?_append]
        cases hcs : Nat.toDigits 10 (n / 10) with
        | nil => exact absurd hcs (toDigits_ne_nil _)
        | cons c cs => rwa [hcs] at hhead

theorem takeWhole_toDigits (n : Nat) (hrest : EndsNumber rest) :
    takeWhole (Nat.toDigits 10 n ++ rest) =
      ((Nat.toDigits 10 n).map fun c => c.toNat - '0'.toNat, rest) := by
  rcases Nat.eq_zero_or_pos n with rfl | hpos
  · rfl
  · have hdigits := @takeDigits_append (Nat.toDigits 10 n) rest
      (fun c hc => Nat.isDigit_of_mem_toDigits (by decide) (by decide) hc) hrest
    have hhead := head?_toDigits hpos
    cases hcs : Nat.toDigits 10 n with
    | nil => exact absurd hcs (toDigits_ne_nil n)
    | cons c cs =>
        rw [hcs] at hdigits hhead
        rw [← hdigits, List.cons_append, takeWhole]
        rintro _ hzero
        exact hhead (congrArg some (List.cons.inj hzero).1)

theorem takeMagnitude_toDigits (negative : Bool) {n : Nat} (hn : IsShort n)
    (hrest : EndsNumber rest) :
    takeMagnitude negative (Nat.toDigits 10 n ++ rest) =
      some (.int (if negative then -(n : Int) else n), rest) := by
  have hlength : (Nat.toDigits 10 n).length ≤ digitLimit := hn
  rw [takeMagnitude, takeWhole_toDigits n hrest]
  simp only [takeFraction_of_endsNumber hrest, takeExponent_of_endsNumber hrest]
  rw [if_neg (by simp), if_neg (by simp), if_neg (by simpa using hlength), ofDigits_toDigits]

theorem ne_of_isDigit {d : Char} (hc : c.isDigit = true) (hd : d.isDigit = false) : c ≠ d :=
  fun heq => Bool.false_ne_true (hd.symm.trans (heq ▸ hc))

/-- No word starts with a digit, and none with a minus sign and a digit. -/
theorem takeWord?_of_isDigit (h : c.isDigit = true) (cs : List Char) :
    takeWord? (c :: cs) = none ∧ takeWord? ('-' :: c :: cs) = none := by
  have hne {d : Char} (hd : d.isDigit = false) : d ≠ c := (ne_of_isDigit h hd).symm
  have hn : 'n' ≠ c := hne rfl
  have ht : 't' ≠ c := hne rfl
  have hf : 'f' ≠ c := hne rfl
  have hN : 'N' ≠ c := hne rfl
  have hI : 'I' ≠ c := hne rfl
  have hminus : '-' ≠ c := hne rfl
  simp [takeWord?, words, afterWord?, hn, ht, hf, hN, hI, hminus]

/-- A text that starts with a digit, or with a minus sign and a digit, starts with a number. -/
theorem next?_of_isDigit (h : c.isDigit = true) (cs : List Char) :
    next? (c :: cs) = takeMagnitude false (c :: cs) ∧
      next? ('-' :: c :: cs) = takeMagnitude true (c :: cs) := by
  obtain ⟨hword, hminus⟩ := takeWord?_of_isDigit h cs
  have hne {d : Char} (hd : d.isDigit = false) (rest : List Char) : c :: cs = d :: rest → False :=
    fun heq => ne_of_isDigit h hd (List.cons.inj heq).1
  constructor
  · have hscalar : next? (c :: cs) = takeScalar? (c :: cs) := by
      rw [next?]
      all_goals exact hne rfl
    rw [hscalar, takeScalar?, hword]
    exact hne rfl
  · show takeScalar? ('-' :: c :: cs) = _
    rw [takeScalar?, hminus]

/-- A whole number is read as it was written. -/
theorem next?_writeInt {n : Int} (hn : IsShort n.natAbs) (hrest : EndsNumber rest) :
    next? ((writeInt n).spelled ++ rest) = some (.int n, rest) := by
  cases hcs : Nat.toDigits 10 n.natAbs with
  | nil => exact absurd hcs (toDigits_ne_nil _)
  | cons c cs =>
      have hc : c.isDigit = true :=
        Nat.isDigit_of_mem_toDigits (by decide) (by decide) (hcs ▸ List.mem_cons_self)
      obtain ⟨hplus, hminus⟩ := next?_of_isDigit hc (cs ++ rest)
      have hmagnitude (negative : Bool) := takeMagnitude_toDigits negative hn hrest
      simp only [hcs, List.cons_append] at hmagnitude
      rw [writeInt, Letters.spelled_map, hcs]
      by_cases hneg : n < 0
      · have habs : -(n.natAbs : Int) = n := by omega
        rw [if_pos hneg]
        show next? ('-' :: c :: (cs ++ rest)) = _
        rw [hminus, hmagnitude, if_pos rfl, habs]
      · have habs : (n.natAbs : Int) = n := by omega
        rw [if_neg hneg]
        show next? (c :: (cs ++ rest)) = _
        rw [hplus, hmagnitude, if_neg Bool.false_ne_true, habs]

/-! ## One token after the other -/

/-- No token starts with white space. -/
theorem next?_of_isSpace (h : isSpace c = true) (cs : List Char) : next? (c :: cs) = none := by
  have hscalar (hword : takeWord? (c :: cs) = none) (hminus : c ≠ '-') (hzero : c ≠ '0')
      (hdigit : digit? c = none) : takeScalar? (c :: cs) = none := by
    have hwhole : takeWhole (c :: cs) = ([], c :: cs) := by
      rw [takeWhole, takeDigits, hdigit]
      rintro _ heq
      exact hzero (List.cons.inj heq).1
    rw [takeScalar?, hword]
    · show takeMagnitude false (c :: cs) = none
      rw [takeMagnitude, hwhole]
      exact if_pos rfl
    · rintro _ heq
      exact hminus (List.cons.inj heq).1
  have hspace : c = ' ' ∨ c = '\t' ∨ c = '\n' ∨ c = '\r' := by
    simpa [isSpace, or_assoc] using h
  rcases hspace with rfl | rfl | rfl | rfl
  all_goals exact hscalar (by simp [takeWord?, words, afterWord?]) (by decide) (by decide) rfl

/-- White space in front of a text does not matter. -/
theorem scan_space (h : isSpace c = true) (cs : List Char) : scan (c :: cs) = scan cs := by
  have hdrop : (c :: cs).dropWhile isSpace = cs.dropWhile isSpace := by
    rw [List.dropWhile_cons, if_pos h]
  rw [scan.eq_def (c :: cs), scan.eq_def cs, hdrop]

theorem scan_of_next? (hnext : next? cs = some (token, rest)) : scan cs = token :: scan rest := by
  cases cs with
  | nil => cases hnext
  | cons c body =>
      have hspace : ¬isSpace c = true := fun h => by rw [next?_of_isSpace h] at hnext; cases hnext
      have hdrop : (c :: body).dropWhile isSpace = c :: body := by
        rw [List.dropWhile_cons, if_neg hspace]
      rw [scan.eq_def]
      split
      next hnil => cases hdrop.symm.trans hnil
      next d after hcons =>
        obtain ⟨rfl, rfl⟩ := List.cons.inj (hdrop.symm.trans hcons)
        split
        next hnone => cases hnext.symm.trans hnone
        next hsome => cases hnext.symm.trans hsome; rfl

end Token

end Json

end Walkthrough

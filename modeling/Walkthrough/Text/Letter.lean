import Walkthrough.Text.Hex

/-!
# Letters

A character beyond U+FFFF may be written as two halves. A text that is put together from escapes may
hold such a half alone, and then it is no text of characters any more. It is a row of letters, each
of which is a character or a half.

* `Letter` — the letters, in the order of their codes, which is linear.
* `Letters` — rows of letters, in the order of dictionaries.
* `Letters.ofString` — a text as a row of letters.
* `Letters.shown` — the letters as a text, in which a half is shown by its escape; `shown_ofString`
  says that nothing else changes.
* `Letters.ofUnits` — the letters that codes stand for: two halves that fit make a character.
-/

namespace Walkthrough.Text

/-- A character, or a half of a character that stands alone. -/
inductive Letter
  | char (c : Char)
  /-- The half of the given number; the halves have the codes from U+D800 to U+DFFF. -/
  | half (number : Fin 0x800)
  deriving DecidableEq

namespace Letter

def code : Letter → Nat
  | char c => c.toNat
  | half number => 0xD800 + number.val

def ofCode (code : Nat) : Letter :=
  if h : 0xD800 ≤ code ∧ code < 0xE000 then half ⟨code - 0xD800, by omega⟩
  else char (Char.ofNat code)

def isChar : Letter → Bool
  | char _ => true
  | half _ => false

def escape (number : Fin 0x800) : List Char := '\\' :: 'u' :: hexDigits 4 (0xD800 + number.val)

/-- A letter as it is shown: a half by its escape. -/
def shown : Letter → List Char
  | char c => [c]
  | half number => escape number

instance : LT Letter := ⟨fun a b => a.code < b.code⟩

instance : DecidableLT Letter := fun a b => inferInstanceAs (Decidable (a.code < b.code))

theorem lt_def {a b : Letter} : a < b ↔ a.code < b.code := Iff.rfl

/-- No character has the code of a half, so letters with the same code are equal. -/
theorem code_inj {a b : Letter} : a.code = b.code ↔ a = b := by
  refine ⟨fun h => ?_, fun h => h ▸ rfl⟩
  have outside (c : Char) : c.toNat < 0xD800 ∨ 0xE000 ≤ c.toNat := by
    rcases c.valid with h | h
    · exact .inl h
    · exact .inr h.1
  cases a with
  | char c =>
    cases b with
    | char d => exact congrArg char (Char.toNat_inj.1 h)
    | half n =>
      have := outside c
      simp only [code] at h
      omega
  | half m =>
    cases b with
    | char d =>
      have := outside d
      simp only [code] at h
      omega
    | half n =>
      simp only [code, Nat.add_left_cancel_iff] at h
      exact congrArg half (Fin.ext h)

instance : Std.Irrefl (α := Letter) (· < ·) := ⟨fun a => Nat.lt_irrefl a.code⟩

instance : Std.Asymm (α := Letter) (· < ·) := ⟨fun _ _ h => Nat.lt_asymm h⟩

instance : Trans (α := Letter) (· < ·) (· < ·) (· < ·) := ⟨Nat.lt_trans⟩

instance : Std.Trichotomous (α := Letter) (· < ·) :=
  ⟨fun a b h k => code_inj.1 (by simp only [lt_def] at h k; omega)⟩

end Letter

abbrev Letters := List Letter

namespace Letters

def ofString (text : String) : Letters := text.toList.map .char

instance : Coe String Letters := ⟨ofString⟩

def shown (letters : Letters) : String := String.ofList (letters.flatMap Letter.shown)

/-- The letters that codes stand for. A first half and a second half make one character. -/
def ofUnits : List Nat → Letters
  | [] => []
  | [unit] => [.ofCode unit]
  | first :: second :: rest =>
    if 0xD800 ≤ first ∧ first < 0xDC00 ∧ 0xDC00 ≤ second ∧ second < 0xE000 then
      .char (Char.ofNat (0x10000 + (first - 0xD800) * 0x400 + (second - 0xDC00))) :: ofUnits rest
    else .ofCode first :: ofUnits (second :: rest)

@[simp] theorem shown_ofString (text : String) : (ofString text).shown = text := by
  have flat (cs : List Char) : (cs.map Letter.char).flatMap Letter.shown = cs := by
    induction cs with
    | nil => rfl
    | cons c cs ih => simp [Letter.shown, ih]
  rw [shown, ofString, flat, String.ofList_toList]

@[simp] theorem ofString_inj {a b : String} : ofString a = ofString b ↔ a = b := by
  refine ⟨fun h => ?_, fun h => h ▸ rfl⟩
  rw [← shown_ofString a, h, shown_ofString]

@[simp] theorem ofString_empty : ofString "" = [] := rfl

end Letters

end Walkthrough.Text

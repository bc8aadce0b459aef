import Mathlib.Data.List.TakeWhile
import Walkthrough.Text.Utf8

/-!
# Decoding undoes encoding

The bytes of a text are those of its characters, one after the other. A character has one to four
bytes: the first announces how many there are, and each of the others carries six bits.

* `Utf8.Stands` — what bytes encode, wherever they stand;
* `Utf8.stands_character` — the bytes of a character in front of others;
* `Utf8.decode_encode` — the bytes of a text encode just that text.

Letters are encoded if they are characters, all of them.

* `Letters.IsText` — whether there is no half among letters;
* `Letters.spelled` — the characters that letters are shown by;
* `Utf8.plain_eq_ok_iff` — only a text can be encoded, as it is.
-/

namespace Walkthrough.Text

/-! ## Letters without halves -/

namespace Letters

/-- Whether there is no half of a character among letters. -/
def IsText (letters : Letters) : Prop := ∀ letter ∈ letters, letter.isChar = true

/-- The characters that letters are shown by, one after the other. -/
def spelled (letters : Letters) : List Char := letters.flatMap Letter.shown

@[simp] theorem toList_shown (letters : Letters) : letters.shown.toList = letters.spelled :=
  String.toList_ofList

@[simp] theorem spelled_nil : spelled [] = [] := rfl

@[simp] theorem spelled_char (c : Char) (letters : Letters) :
    spelled (.char c :: letters) = c :: letters.spelled := rfl

@[simp] theorem spelled_append (a b : Letters) : spelled (a ++ b) = a.spelled ++ b.spelled :=
  List.flatMap_append

@[simp] theorem spelled_map (cs : List Char) : spelled (cs.map .char) = cs := by
  induction cs with
  | nil => rfl
  | cons c cs ih => rw [List.map_cons, spelled_char, ih]

/-- Letters are a text if they are the characters that they are shown by. -/
theorem isText_iff {letters : Letters} : letters.IsText ↔ letters = letters.spelled.map .char := by
  constructor
  · intro h
    induction letters with
    | nil => rfl
    | cons letter letters ih =>
        obtain ⟨hletter, hletters⟩ := List.forall_mem_cons.mp h
        cases letter with
        | char c => rw [spelled_char, List.map_cons, ← ih hletters]
        | half number => cases hletter
  · intro h letter hletter
    rw [h] at hletter
    obtain ⟨c, -, rfl⟩ := List.mem_map.mp hletter
    rfl

end Letters

namespace Utf8

/-! ## The bytes of a text -/

theorem byteArray_toList_loop (bytes : ByteArray) (i : Nat) (before : List UInt8) :
    ByteArray.toList.loop bytes i before = before.reverse ++ bytes.data.toList.drop i := by
  fun_induction ByteArray.toList.loop bytes i before with
  | case1 i before hlt ih =>
      have hlength : i < bytes.data.toList.length := by simpa using hlt
      rw [ih, List.drop_eq_getElem_cons hlength]
      simp [ByteArray.get!, hlt]
  | case2 i before hge =>
      have hdrop : bytes.data.toList.drop i = [] :=
        List.drop_eq_nil_of_le (by simpa using Nat.le_of_not_lt hge)
      rw [hdrop, List.append_nil]

theorem encode_eq (text : String) :
    encode text = text.toList.flatMap String.utf8EncodeChar := by
  have hbytes : text.toUTF8 = text.toList.utf8Encode := by
    rw [String.toUTF8_eq_toByteArray, ← String.toByteArray_ofList, String.ofList_toList]
  rw [encode, hbytes, ByteArray.toList, byteArray_toList_loop, List.utf8Encode,
    List.toList_data_toByteArray]
  rfl

/-! ## The bytes of a character -/

/-- Whether bytes encode characters, wherever they stand. -/
def Stands (bytes : List UInt8) (cs : List Char) : Prop :=
  ∀ pos, decodeFrom pos none bytes = .ok cs

variable {bytes : List UInt8} {cs : List Char} {lead : UInt8} {start missing low high bits : Nat}

theorem toNat_byte {n : Nat} (h : n < 256) : (UInt8.ofNat n).toNat = n :=
  UInt8.toNat_ofNat_of_lt' h

/-- The last byte of a sequence ends a character. -/
theorem decodeFrom_last (h : Stands bytes cs) (pos six : Nat) (hsix : six < 0x40)
    (hlow : low ≤ six + 128) (hhigh : six + 128 ≤ high) :
    decodeFrom pos (some ⟨lead, start, 1, low, high, bits⟩) (UInt8.ofNat (six + 128) :: bytes) =
      .ok (Char.ofNat (bits * 0x40 + six) :: cs) := by
  rw [decodeFrom, toNat_byte (by omega), if_pos ⟨hlow, hhigh⟩, if_pos (Nat.le_refl 1), h (pos + 1),
    Nat.add_sub_cancel]
  rfl

/-- Any other byte after the first adds its six bits. -/
theorem decodeFrom_more (pos six : Nat) (hsix : six < 0x40) (hlow : low ≤ six + 128)
    (hhigh : six + 128 ≤ high) :
    decodeFrom pos (some ⟨lead, start, missing + 2, low, high, bits⟩)
        (UInt8.ofNat (six + 128) :: bytes) =
      decodeFrom (pos + 1) (some ⟨lead, start, missing + 1, 0x80, 0xBF, bits * 0x40 + six⟩)
        bytes := by
  rw [decodeFrom, toNat_byte (by omega), if_pos ⟨hlow, hhigh⟩, if_neg (by simp),
    Nat.add_sub_cancel]
  rfl

/-- The first byte of a longer sequence says what may come next. -/
theorem decodeFrom_lead {p : Pending} (pos first : Nat) (hlow : 0x80 ≤ first) (hhigh : first < 256)
    (hbegin : Pending.begin? (UInt8.ofNat first) pos = some p) :
    decodeFrom pos none (UInt8.ofNat first :: bytes) = decodeFrom (pos + 1) (some p) bytes := by
  rw [decodeFrom, toNat_byte hhigh, if_neg (by omega), hbegin]

/-! The second byte has a range of its own where a shorter sequence would do, where the halves
would be, and where the characters end. -/

theorem begin?_two (pos : Nat) {x : Nat} (hlow : 2 ≤ x) (hhigh : x < 32) :
    Pending.begin? (UInt8.ofNat (x + 192)) pos =
      some ⟨UInt8.ofNat (x + 192), pos, 1, 0x80, 0xBF, x⟩ := by
  rw [Pending.begin?, toNat_byte (by omega), if_pos (by omega), Nat.add_sub_cancel]

theorem begin?_three (pos : Nat) {x : Nat} (hhigh : x < 16) :
    Pending.begin? (UInt8.ofNat (x + 224)) pos =
      some ⟨UInt8.ofNat (x + 224), pos, 2, if x = 0 then 0xA0 else 0x80,
        if x = 13 then 0x9F else 0xBF, x⟩ := by
  rw [Pending.begin?, toNat_byte (by omega), if_neg (by omega)]
  by_cases hshort : x = 0
  · rw [if_pos (by omega), hshort]
    rfl
  by_cases hhalf : x = 13
  · rw [if_neg (by omega), if_pos (by omega), hhalf]
    rfl
  · rw [if_neg (by omega), if_neg (by omega), if_pos (by omega), if_neg hshort, if_neg hhalf,
      Nat.add_sub_cancel]

theorem begin?_four (pos : Nat) {x : Nat} (hhigh : x ≤ 4) :
    Pending.begin? (UInt8.ofNat (x + 240)) pos =
      some ⟨UInt8.ofNat (x + 240), pos, 3, if x = 0 then 0x90 else 0x80,
        if x = 4 then 0x8F else 0xBF, x⟩ := by
  rw [Pending.begin?, toNat_byte (by omega), if_neg (by omega), if_neg (by omega),
    if_neg (by omega), if_neg (by omega)]
  by_cases hshort : x = 0
  · rw [if_pos (by omega), hshort]
    rfl
  by_cases hlast : x = 4
  · rw [if_neg (by omega), if_neg (by omega), if_pos (by omega), hlast]
    rfl
  · rw [if_neg (by omega), if_pos (by omega), if_neg hshort, if_neg hlast, Nat.add_sub_cancel]

/-- The bytes of a character encode it. -/
theorem stands_character (c : Char) (h : Stands bytes cs) :
    Stands (String.utf8EncodeChar c ++ bytes) (c :: cs) := by
  intro pos
  obtain ⟨v, hv⟩ : ∃ v, v = c.val.toNat := ⟨_, rfl⟩
  have hvalid : v < 0xD800 ∨ (0xDFFF < v ∧ v < 0x110000) := hv ▸ c.valid
  have hchar {n : Nat} (hn : n = v) : Char.ofNat n = c := (hn.trans hv) ▸ Char.ofNat_toNat c
  simp only [String.utf8EncodeChar, ← hv]
  by_cases hone : v ≤ 127
  · rw [if_pos hone]
    show decodeFrom pos none (UInt8.ofNat v :: bytes) = _
    rw [decodeFrom, toNat_byte (by omega), if_pos (by omega), h (pos + 1), hchar rfl]
    rfl
  by_cases htwo : v ≤ 2047
  · rw [if_neg hone, if_pos htwo]
    show decodeFrom pos none (_ :: _ :: bytes) = _
    rw [decodeFrom_lead pos _ (by omega) (by omega) (begin?_two pos (by omega) (by omega)),
      decodeFrom_last h _ _ (by omega) (by omega) (by omega), hchar (by omega)]
  by_cases hthree : v ≤ 65535
  · rw [if_neg hone, if_neg htwo, if_pos hthree]
    show decodeFrom pos none (_ :: _ :: _ :: bytes) = _
    rw [decodeFrom_lead pos _ (by omega) (by omega) (begin?_three pos (by omega)),
      decodeFrom_more _ _ (by omega) (by split <;> omega) (by split <;> omega),
      decodeFrom_last h _ _ (by omega) (by omega) (by omega), hchar (by omega)]
  · rw [if_neg hone, if_neg htwo, if_neg hthree]
    show decodeFrom pos none (_ :: _ :: _ :: _ :: bytes) = _
    rw [decodeFrom_lead pos _ (by omega) (by omega) (begin?_four pos (by omega)),
      decodeFrom_more _ _ (by omega) (by split <;> omega) (by split <;> omega),
      decodeFrom_more _ _ (by omega) (by omega) (by omega),
      decodeFrom_last h _ _ (by omega) (by omega) (by omega), hchar (by omega)]

theorem decode_encode (text : String) : decode (encode text) = .ok text.toList := by
  have hstands (cs : List Char) : Stands (cs.flatMap String.utf8EncodeChar) cs := by
    induction cs with
    | nil => exact fun _ => rfl
    | cons c cs ih => exact stands_character c ih
  rw [encode_eq]
  exact hstands text.toList 0

/-! ## Letters that can be encoded -/

theorem drop_takeWhile (letters : Letters) :
    letters.drop (letters.takeWhile Letter.isChar).length = letters.dropWhile Letter.isChar := by
  have hparts : letters.takeWhile Letter.isChar ++ letters.dropWhile Letter.isChar = letters :=
    List.takeWhile_append_dropWhile
  calc letters.drop (letters.takeWhile Letter.isChar).length
      = (letters.takeWhile Letter.isChar ++ letters.dropWhile Letter.isChar).drop
          (letters.takeWhile Letter.isChar).length := congrArg (List.drop _) hparts.symm
    _ = letters.dropWhile Letter.isChar := List.drop_left

/-- Halves are found unless there are none. -/
theorem halves?_eq_none_iff {letters : Letters} : halves? letters = none ↔ letters.IsText := by
  rw [halves?, drop_takeWhile, Letters.IsText, ← List.dropWhile_eq_nil_iff]
  cases hrest : letters.dropWhile Letter.isChar with
  | nil => exact iff_of_true rfl rfl
  | cons letter rest =>
      have hletter : ¬letter.isChar = true := by
        have hhead := List.head?_dropWhile_not Letter.isChar letters
        rw [hrest] at hhead
        simpa using hhead
      cases letter with
      | char c => exact absurd rfl hletter
      | half number => exact iff_of_false nofun nofun

/-- Only a text can be encoded, and it is what the letters are shown by. -/
theorem plain_eq_ok_iff {letters : Letters} {text : String} :
    plain letters = .ok text ↔ letters.IsText ∧ letters.shown = text := by
  rw [plain, ← halves?_eq_none_iff]
  cases halves? letters with
  | none => simp
  | some halves => simp

end Utf8

end Walkthrough.Text

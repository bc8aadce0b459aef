import Walkthrough.Text.Quoted

/-!
# UTF-8

A file is a sequence of bytes; its text is what the bytes encode, if they encode any. Only the
shortest encoding of a code point counts, and no half of a character is encoded at all: both are
settled by the range that the second byte of a sequence must lie in. So letters can be written to a
file only if there is no half among them.

* `Utf8.Pending` — a sequence that has been begun, with the range its next byte must lie in.
* `Utf8.decode` — the characters of a byte sequence, or the first fault in it.
* `Utf8.halves?` — the first halves among letters, which keep them from being encoded.
* `Utf8.plain` — the text that letters are, if they can be encoded.
-/

namespace Walkthrough.Text.Utf8

/-- Why a sequence of bytes encodes no character. -/
inductive Reason
  /-- No encoding starts with this byte. -/
  | invalidStart
  /-- The byte after the sequence does not continue it. -/
  | invalidContinuation
  /-- The input stops before the sequence does. -/
  | unexpectedEnd
  deriving DecidableEq

/-- The first fault of an input: the bytes from `start` up to, not including, `stop`. -/
structure Fault where
  /-- The byte at `start`. -/
  lead : UInt8
  start : Nat
  stop : Nat
  reason : Reason
  deriving DecidableEq

def Reason.text : Reason → String
  | .invalidStart => "invalid start byte"
  | .invalidContinuation => "invalid continuation byte"
  | .unexpectedEnd => "unexpected end of data"

/-- A fault in words: one byte is shown by value and place, several by their places only. -/
def Fault.message (fault : Fault) : String :=
  let subject :=
    if fault.stop = fault.start + 1 then
      "byte 0x" ++ String.ofList (hexDigits 2 fault.lead.toNat) ++ " in position " ++
        toString fault.start
    else
      "bytes in position " ++ toString fault.start ++ "-" ++ toString (fault.stop - 1)
  "'utf-8' codec can't decode " ++ subject ++ ": " ++ fault.reason.text

structure Pending where
  lead : UInt8
  start : Nat
  /-- How many bytes are still to come. -/
  missing : Nat
  /-- The range of the next byte. -/
  low : Nat
  high : Nat
  /-- The bits read so far. -/
  bits : Nat

/-- What the first byte of a longer sequence announces; nothing if no sequence starts with it. -/
def Pending.begin? (lead : UInt8) (start : Nat) : Option Pending :=
  let b := lead.toNat
  -- 0xC0 and 0xC1 would start encodings that are too long.
  if 0xC2 ≤ b ∧ b ≤ 0xDF then some ⟨lead, start, 1, 0x80, 0xBF, b - 0xC0⟩
  else if b = 0xE0 then some ⟨lead, start, 2, 0xA0, 0xBF, 0⟩
  else if b = 0xED then some ⟨lead, start, 2, 0x80, 0x9F, 0xD⟩
  else if 0xE1 ≤ b ∧ b ≤ 0xEF then some ⟨lead, start, 2, 0x80, 0xBF, b - 0xE0⟩
  else if b = 0xF0 then some ⟨lead, start, 3, 0x90, 0xBF, 0⟩
  else if 0xF1 ≤ b ∧ b ≤ 0xF3 then some ⟨lead, start, 3, 0x80, 0xBF, b - 0xF0⟩
  else if b = 0xF4 then some ⟨lead, start, 3, 0x80, 0x8F, 4⟩
  else none

/-- The characters that the bytes from position `pos` on encode, after a sequence that may have
been begun before. -/
def decodeFrom : Nat → Option Pending → List UInt8 → Except Fault (List Char)
  | _, none, [] => .ok []
  | pos, some p, [] => .error ⟨p.lead, p.start, pos, .unexpectedEnd⟩
  | pos, none, byte :: bytes =>
    if byte.toNat < 0x80 then
      (decodeFrom (pos + 1) none bytes).map (Char.ofNat byte.toNat :: ·)
    else
      match Pending.begin? byte pos with
      | none => .error ⟨byte, pos, pos + 1, .invalidStart⟩
      | some p => decodeFrom (pos + 1) (some p) bytes
  | pos, some p, byte :: bytes =>
    if p.low ≤ byte.toNat ∧ byte.toNat ≤ p.high then
      let bits := p.bits * 0x40 + (byte.toNat - 0x80)
      -- Only the second byte has a range of its own.
      if p.missing ≤ 1 then
        (decodeFrom (pos + 1) none bytes).map (Char.ofNat bits :: ·)
      else
        decodeFrom (pos + 1) (some ⟨p.lead, p.start, p.missing - 1, 0x80, 0xBF, bits⟩) bytes
    else
      .error ⟨p.lead, p.start, pos, .invalidContinuation⟩

/-- The text that a byte sequence encodes. -/
def decode (bytes : List UInt8) : Except Fault (List Char) := decodeFrom 0 none bytes

def encode (text : String) : List UInt8 := text.toUTF8.toList

/-- Halves in a row that letters hold, from the place `start` up to, not including, `stop`. -/
structure Halves where
  /-- The half at `start`. -/
  lead : Fin 0x800
  start : Nat
  stop : Nat
  deriving DecidableEq

/-- Halves in words: one is shown by its escape and place, several by their places only. -/
def Halves.message (halves : Halves) : String :=
  let subject :=
    if halves.stop = halves.start + 1 then
      "character '" ++ String.ofList (Letter.escape halves.lead) ++ "' in position " ++
        toString halves.start
    else
      "characters in position " ++ toString halves.start ++ "-" ++ toString (halves.stop - 1)
  "'utf-8' codec can't encode " ++ subject ++ ": surrogates not allowed"

def halves? (letters : Letters) : Option Halves :=
  let start := (letters.takeWhile Letter.isChar).length
  match letters.drop start with
  | .half lead :: rest =>
    some ⟨lead, start, start + 1 + (rest.takeWhile fun letter => !letter.isChar).length⟩
  | _ => none

def plain (letters : Letters) : Except Halves String :=
  match halves? letters with
  | some halves => .error halves
  | none => .ok letters.shown

end Walkthrough.Text.Utf8

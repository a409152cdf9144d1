/-
**UTF-8.**

Text goes to bytes and back.  Where bytes are no text, the first ill-formed place is named: either
the text stops in the middle of a character, or one to three bytes cannot begin or continue one.

Main definitions

* `Utf8.encode`, `Utf8.decode` — text as bytes and back;
* `Utf8.Fault` — where and how bytes fail to be text, and its message.

Main results

* `Utf8.decode_encode` — text is read back from its bytes;
* `Utf8.encode_of_decode` — bytes that are read as a text are its bytes.
-/

import SpanIntake.Bytes.Word

set_option relaxedAutoImplicit false
set_option autoImplicit false

namespace SpanIntake.Utf8

/-- The UTF-8 bytes of a text. -/
def encode (s : String) : Bytes := s.toUTF8.data.toList

/-- Where bytes stop being text. -/
inductive Fault where
  /-- From `start` on, `size` bytes belong to no character. -/
  | invalid (size start : Nat)
  /-- The bytes end inside the character that begins at `start`. -/
  | incomplete (start : Nat)
  deriving DecidableEq, Repr

/-- The message of a fault. -/
def Fault.message : Fault → String
  | .invalid size start => s!"invalid utf-8 sequence of {size} bytes from index {start}"
  | .incomplete start => s!"incomplete utf-8 byte sequence from index {start}"

/-- How many bytes follow a leading byte, and the bounds of the first of them; nothing for a byte
that begins no character. -/
def lead? (b : UInt8) : Option (Nat × UInt8 × UInt8) :=
  if b ≤ 0x7F then some (0, 0x80, 0xBF)
  else if b < 0xC2 then none
  else if b ≤ 0xDF then some (1, 0x80, 0xBF)
  else if b = 0xE0 then some (2, 0xA0, 0xBF)
  else if b = 0xED then some (2, 0x80, 0x9F)
  else if b ≤ 0xEF then some (2, 0x80, 0xBF)
  else if b = 0xF0 then some (3, 0x90, 0xBF)
  else if b ≤ 0xF3 then some (3, 0x80, 0xBF)
  else if b = 0xF4 then some (3, 0x80, 0x8F)
  else none

/-- Reads `owed` continuation bytes, the first between `low` and `high`.  The rest on success;
otherwise whether the bytes ended, and how many good ones there were. -/
def tail : Nat → UInt8 → UInt8 → Bytes → Except (Bool × Nat) Bytes
  | 0, _, _, rest => .ok rest
  | _ + 1, _, _, [] => .error (true, 0)
  | owed + 1, low, high, b :: rest =>
    if low ≤ b ∧ b ≤ high then
      match tail owed 0x80 0xBF rest with
      | .ok rest => .ok rest
      | .error (ended, good) => .error (ended, good + 1)
    else .error (false, 0)

/-- The first fault in bytes of which `start` have been read; at most one character per unit of
the first argument is read. -/
def fault? : Nat → Nat → Bytes → Option Fault
  | 0, _, _ => none
  | _ + 1, _, [] => none
  | more + 1, start, b :: rest =>
    match lead? b with
    | none => some (.invalid 1 start)
    | some (owed, low, high) =>
      match tail owed low high rest with
      | .error (true, _) => some (.incomplete start)
      | .error (false, good) => some (.invalid (good + 1) start)
      | .ok rest => fault? more (start + owed + 1) rest

/-- The text that bytes spell, or the first place where they spell none. -/
def decode (bs : Bytes) : Except Fault String :=
  match String.fromUTF8? ⟨bs.toArray⟩ with
  | some s => .ok s
  | none => .error ((fault? bs.length 0 bs).getD (.invalid 1 0))

theorem decode_encode (s : String) : decode (encode s) = .ok s := by
  have h : (⟨(encode s).toArray⟩ : ByteArray) = s.toByteArray := by
    simp [encode, String.toUTF8]
  have hs : s.toByteArray.IsValidUTF8 := s.isValidUTF8
  simp only [decode, h, String.fromUTF8?, hs, dite_true]
  rfl

theorem encode_of_decode {bs : Bytes} {s : String} (h : decode bs = .ok s) : encode s = bs := by
  unfold decode String.fromUTF8? at h
  split at h
  · rename_i hs
    split at hs
    · cases hs
      cases h
      simp [encode, String.toUTF8, String.fromUTF8]
    · cases hs
  · cases h

end SpanIntake.Utf8

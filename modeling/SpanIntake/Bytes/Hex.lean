/-
**Hexadecimal text.**

Two lower-case digits per byte when written; either case when read.

Main definitions

* `Hex.encode`, `Hex.decode?` — byte strings as hexadecimal text and back.

Main results

* `Hex.decode?_encode` — a byte string is read back.
-/

import SpanIntake.Bytes.Word

set_option relaxedAutoImplicit false
set_option autoImplicit false

namespace SpanIntake.Hex

/-- The lower-case digit of a number below sixteen. -/
def digit (n : Nat) : Char :=
  if n < 10 then Char.ofNat (48 + n) else Char.ofNat (87 + n)

/-- The number a hexadecimal digit of either case stands for. -/
def digitValue? (c : Char) : Option Nat :=
  if '0' ≤ c ∧ c ≤ '9' then some (c.toNat - 48)
  else if 'a' ≤ c ∧ c ≤ 'f' then some (c.toNat - 87)
  else if 'A' ≤ c ∧ c ≤ 'F' then some (c.toNat - 55)
  else none

/-- The two digits of a byte. -/
def ofByte (b : UInt8) : List Char := [digit (b.toNat / 16), digit (b.toNat % 16)]

/-- Hexadecimal text of a byte string, as characters. -/
def encodeChars (bs : Bytes) : List Char := bs.flatMap ofByte

/-- Hexadecimal text of a byte string. -/
def encode (bs : Bytes) : String := String.ofList (encodeChars bs)

/-- The bytes that pairs of digits spell; nothing where a digit is missing or is none. -/
def decodeChars? : List Char → Option Bytes
  | [] => some []
  | [_] => none
  | a :: b :: rest =>
    match digitValue? a, digitValue? b, decodeChars? rest with
    | some x, some y, some bs => some (UInt8.ofNat (16 * x + y) :: bs)
    | _, _, _ => none

/-- The byte string that a text spells. -/
def decode? (s : String) : Option Bytes := decodeChars? s.toList

theorem digitValue?_digit {n : Nat} (h : n < 16) : digitValue? (digit n) = some n := by
  have hall : ∀ n : Fin 16, digitValue? (digit n.val) = some n.val := by decide
  exact hall ⟨n, h⟩

theorem decodeChars?_encodeChars (bs : Bytes) : decodeChars? (encodeChars bs) = some bs := by
  induction bs with
  | nil => rfl
  | cons b bs ih =>
    have hb := b.toNat_lt
    have hhigh : digitValue? (digit (b.toNat / 16)) = some (b.toNat / 16) :=
      digitValue?_digit (by omega)
    have hlow : digitValue? (digit (b.toNat % 16)) = some (b.toNat % 16) :=
      digitValue?_digit (Nat.mod_lt _ (by decide))
    have hbyte : UInt8.ofNat (16 * (b.toNat / 16) + b.toNat % 16) = b := by
      rw [Nat.div_add_mod, UInt8.ofNat_toNat]
    rw [encodeChars] at ih
    simp only [encodeChars, List.flatMap_cons, ofByte, List.cons_append, List.nil_append,
      decodeChars?, hhigh, hlow, ih, hbyte]

theorem decode?_encode (bs : Bytes) : decode? (encode bs) = some bs := by
  rw [decode?, encode, String.toList_ofList, decodeChars?_encodeChars]

end SpanIntake.Hex

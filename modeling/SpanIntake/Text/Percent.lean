/-
**Percent codes.**

A byte that has no place in a text is written as a percent sign and its two hexadecimal digits.

Main definitions

* `Percent.code` — the code of a byte;
* `Percent.encodeChar` — a character as the codes of its bytes.
-/

import SpanIntake.Bytes.Hex
import SpanIntake.Text.Utf8

set_option relaxedAutoImplicit false
set_option autoImplicit false

namespace SpanIntake.Percent

/-- A digit of a code. -/
def digit (n : Nat) : Char := (Hex.digit n).toUpper

/-- The code of a byte. -/
def code (b : UInt8) : List Char := ['%', digit (b.toNat / 16), digit (b.toNat % 16)]

/-- A character as the codes of its bytes. -/
def encodeChar (c : Char) : List Char := (Utf8.encode (String.singleton c)).flatMap code

end SpanIntake.Percent

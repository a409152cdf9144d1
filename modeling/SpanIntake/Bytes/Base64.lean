/-
**Base64 text** with the standard alphabet and padding: three bytes become four characters, and a
last group of one or two bytes is filled up with `=`.
-/

import SpanIntake.Bytes.Word

set_option relaxedAutoImplicit false
set_option autoImplicit false

namespace SpanIntake.Base64

/-- The character for a number below sixty-four. -/
def symbol (n : Nat) : Char :=
  if n < 26 then Char.ofNat (65 + n)
  else if n < 52 then Char.ofNat (71 + n)
  else if n < 62 then Char.ofNat (n - 4)
  else if n = 62 then '+' else '/'

/-- The characters of a byte string. -/
def encodeChars : Bytes → List Char
  | [] => []
  | [a] =>
    let n := a.toNat * 16
    [symbol (n / 64), symbol (n % 64), '=', '=']
  | [a, b] =>
    let n := (a.toNat * 256 + b.toNat) * 4
    [symbol (n / 4096), symbol (n / 64 % 64), symbol (n % 64), '=']
  | a :: b :: c :: rest =>
    let n := (a.toNat * 256 + b.toNat) * 256 + c.toNat
    symbol (n / 262144) :: symbol (n / 4096 % 64) :: symbol (n / 64 % 64) :: symbol (n % 64) ::
      encodeChars rest

/-- Base64 text of a byte string. -/
def encode (bs : Bytes) : String := String.ofList (encodeChars bs)

end SpanIntake.Base64

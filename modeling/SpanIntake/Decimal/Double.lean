/-
**Double-precision numbers**, held as their 64 bits so that every payload survives a round trip.

A finite double is `± m · 2 ^ q`.  Arithmetic is done on exact quotients of naturals and rounded
once, to the nearest double and to the even one of two equally near.

Main definitions

* `Double` — a double by its bits;
* `Double.Parts` — not a number, infinite, or sign, significand and binary exponent;
* `Double.ofRatio` — the double nearest to a quotient of naturals;
* `Double.mul`, `Double.div` — product and quotient of finite doubles, rounded;
* `Double.truncate?` — the integer a double equals, if it equals one.
-/

set_option relaxedAutoImplicit false
set_option autoImplicit false

namespace SpanIntake

/-- A double-precision number by its bit pattern. -/
structure Double where
  /-- Sign bit, eleven exponent bits, fifty-two fraction bits. -/
  bits : UInt64
  deriving DecidableEq, Repr, Inhabited

namespace Double

/-! ### Reading the bits -/

/-- What a bit pattern stands for. -/
inductive Parts where
  /-- Not a number. -/
  | nan
  /-- An infinity. -/
  | infinite (negative : Bool)
  /-- The number `significand · 2 ^ exponent` with a sign. -/
  | finite (negative : Bool) (significand : Nat) (exponent : Int)
  deriving DecidableEq, Repr

/-- Whether the sign bit is set. -/
def negative (d : Double) : Bool := 0x8000000000000000 ≤ d.bits

/-- The least binary exponent: the weight of the last bit of a subnormal number. -/
def minExponent : Int := -1074

/-- The weight of the leading bit of a normal significand, which the bits leave out. -/
def hiddenBit : Nat := 4503599627370496

/-- The parts of a double. -/
def parts (d : Double) : Parts :=
  let field : Nat := d.bits.toNat / hiddenBit % 2048
  let fraction : Nat := d.bits.toNat % hiddenBit
  if field = 2047 then
    if fraction = 0 then .infinite d.negative else .nan
  else if field = 0 then .finite d.negative fraction minExponent
  else .finite d.negative (hiddenBit + fraction) (field - 1075)

/-- Whether the bits stand for no number. -/
def isNaN (d : Double) : Bool := d.parts == .nan

/-- Whether a double is a zero of either sign. -/
def isZero (d : Double) : Bool := d.bits &&& 0x7FFFFFFFFFFFFFFF == 0

/-- Positive zero. -/
def zero : Double := ⟨0⟩

/-- The same number with the other sign. -/
def neg (d : Double) : Double := ⟨d.bits ^^^ 0x8000000000000000⟩

/-! ### Rounding -/

/-- The natural nearest to `num / den`, the even one of two equally near. -/
def roundDiv (num den : Nat) : Nat :=
  let down := num / den
  let twice := 2 * (num % den)
  if twice < den then down
  else if den < twice then down + 1
  else if down % 2 = 0 then down else down + 1

/-- The quotient `num / (den · 2 ^ q)` as a numerator and a denominator. -/
def scaleRatio (num den : Nat) (q : Int) : Nat × Nat :=
  if 0 ≤ q then (num, den <<< q.toNat) else (num <<< (-q).toNat, den)

/-- The positive double nearest to `num / den`, an infinity beyond the range.  The exponent is the
one that leaves a significand of 53 bits, or the least one for small numbers; a carry out of the
significand runs into the exponent field by itself. -/
def ofRatio (num den : Nat) : Double :=
  if num = 0 then zero
  else
    let guess : Int := (Nat.log2 num : Int) - Nat.log2 den - 53
    let (n, d) := scaleRatio num den guess
    let q := max minExponent (if 2 * hiddenBit ≤ n / d then guess + 1 else guess)
    let (n, d) := scaleRatio num den q
    let m := roundDiv n d
    let bits := (q + 1074).toNat * hiddenBit + m
    if 2047 * hiddenBit ≤ bits then ⟨0x7FF0000000000000⟩ else ⟨UInt64.ofNat bits⟩

/-- The double nearest to a natural number. -/
def ofNat (n : Nat) : Double := ofRatio n 1

/-- The double nearest to an integer. -/
def ofInt (n : Int) : Double := if n < 0 then (ofNat n.natAbs).neg else ofNat n.natAbs

/-- Numerator and denominator of `m · 2 ^ q`. -/
def ratio (m : Nat) (q : Int) : Nat × Nat :=
  if 0 ≤ q then (m <<< q.toNat, 1) else (m, 1 <<< (-q).toNat)

/-- The product of two finite doubles without their signs; an operand that is not finite gives
the first back. -/
def mul (x y : Double) : Double :=
  match x.parts, y.parts with
  | .finite _ m q, .finite _ m' q' =>
    let (a, b) := ratio m q
    let (a', b') := ratio m' q'
    ofRatio (a * a') (b * b')
  | _, _ => x

/-- The quotient of two finite doubles without their signs, the second not zero; an operand that
is not finite gives the first back. -/
def div (x y : Double) : Double :=
  match x.parts, y.parts with
  | .finite _ m q, .finite _ m' q' =>
    let (a, b) := ratio m q
    let (a', b') := ratio m' q'
    ofRatio (a * b') (b * a')
  | _, _ => x

/-- The integer that a double equals; nothing where it has a fractional part or is not finite. -/
def truncate? (d : Double) : Option Int :=
  match d.parts with
  | .finite negative m q =>
    let (a, b) := ratio m q
    if a % b = 0 then
      let n : Int := (a / b : Nat)
      some (if negative then -n else n)
    else none
  | _ => none

end Double

end SpanIntake

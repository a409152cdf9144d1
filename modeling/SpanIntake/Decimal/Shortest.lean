/-
**The shortest decimal of a double.**

A double stands for all reals that round to it.  Its shortest decimal is the multiple of the
largest power of ten that lies among them; of two such multiples the one nearer to the double.

Main definitions

* `Decimal` — the number `digits · 10 ^ exponent`;
* `Decimal.shortest` — the shortest decimal of `m · 2 ^ q`;
* `Decimal.positional` — a decimal written without exponent;
* `Double.toText` — the text of a double.
-/

import SpanIntake.Decimal.Double

set_option relaxedAutoImplicit false
set_option autoImplicit false

namespace SpanIntake

/-- The number `digits · 10 ^ exponent`. -/
structure Decimal where
  /-- The significant digits as one number. -/
  digits : Nat
  /-- The power of ten of the last digit. -/
  exponent : Int
  deriving DecidableEq, Repr, Inhabited

namespace Decimal

/-- Which of two equally near decimals is taken. -/
inductive TieRule where
  /-- The greater one. -/
  | up
  /-- The one with an even last digit. -/
  | even
  deriving DecidableEq, Repr

/-- Numerator and denominator of `x · 2 ^ (q - 2) / 10 ^ k`. -/
def onGrid (x : Nat) (q k : Int) : Nat × Nat :=
  let (n, d) := if 2 ≤ q then (x <<< (q - 2).toNat, 1) else (x, 1 <<< (2 - q).toNat)
  if 0 ≤ k then (n, d * Nat.pow 10 k.toNat) else (n * Nat.pow 10 (-k).toNat, d)

/-- The multiple of `10 ^ k` that rounds to `m · 2 ^ q` and is nearest to it, if there is one.
The reals that round to `m · 2 ^ q` reach half a unit up and down, down only a quarter where `m`
is the least significand of its exponent; the ends count where `m` is even. -/
def gridHit? (tie : TieRule) (m : Nat) (q k : Int) : Option Nat :=
  let below := if m = Double.hiddenBit ∧ Double.minExponent < q then 1 else 2
  let (value, unit) := onGrid (4 * m) q k
  let (low, _) := onGrid (4 * m - below) q k
  let (high, _) := onGrid (4 * m + 2) q k
  let a := value / unit
  let closed := m % 2 = 0
  let lower := low < a * unit ∨ closed ∧ low = a * unit
  let upper := (a + 1) * unit < high ∨ closed ∧ (a + 1) * unit = high
  if lower ∧ upper then
    let down := value - a * unit
    let up := (a + 1) * unit - value
    if down < up then some a
    else if up < down then some (a + 1)
    else match tie with
      | .up => some (a + 1)
      | .even => some (if a % 2 = 0 then a else a + 1)
  else if lower then some a
  else if upper then some (a + 1)
  else none

/-- The first hit on the grids `10 ^ k`, `10 ^ (k - 1)`, …, at most as many as the first argument
says. -/
def firstHit (tie : TieRule) (m : Nat) (q : Int) : Nat → Int → Decimal
  | 0, k => ⟨m, k⟩
  | more + 1, k =>
    match gridHit? tie m q k with
    | some digits => ⟨digits, k⟩
    | none => firstHit tie m q more (k - 1)

/-- The count of decimal digits of a natural number. -/
def width (n : Nat) : Nat := (Nat.toDigits 10 n).length

/-- The shortest decimal of `m · 2 ^ q` for positive `m`.  The first grid is too coarse for a hit,
and a grid twenty digits finer has one, since a significand has at most 53 bits. -/
def shortest (tie : TieRule) (m : Nat) (q : Int) : Decimal :=
  let (high, unit) := onGrid (4 * m + 2) q 0
  firstHit tie m q 24 ((width high : Int) - width unit + 1)

/-- The digits of a decimal, as characters. -/
def chars (d : Decimal) : List Char := Nat.toDigits 10 d.digits

/-- A decimal written without exponent: zeros fill up to the point on either side. -/
def positional (d : Decimal) : List Char :=
  let ds := d.chars
  if 0 ≤ d.exponent then ds ++ List.replicate d.exponent.toNat '0'
  else
    let places := (-d.exponent).toNat
    if ds.length ≤ places then '0' :: '.' :: (List.replicate (places - ds.length) '0' ++ ds)
    else ds.take (ds.length - places) ++ '.' :: ds.drop (ds.length - places)

end Decimal

/-- The text of a double: the shortest decimal without exponent, a tie going up. -/
def Double.toText (d : Double) : String :=
  match d.parts with
  | .nan => "NaN"
  | .infinite negative => if negative then "-inf" else "inf"
  | .finite negative m q =>
    let body := if m = 0 then ['0'] else (Decimal.shortest .up m q).positional
    String.ofList (if negative then '-' :: body else body)

end SpanIntake

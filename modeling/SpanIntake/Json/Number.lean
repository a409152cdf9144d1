/-
**The numbers that JSON numerals stand for.**

A numeral without point and exponent is an integer where it fits 64 bits, signed or unsigned.  Any
other numeral is read as a double in two rounded steps: its leading digits, as many as fit an
unsigned 64-bit word, and then one power of ten that multiplies or divides them.  A numeral beyond
the range of doubles stands for no number.

Main definitions

* `Json.Number` — an integer or a double;
* `Json.NumberText.value?` — the number of a numeral;
* `Json.NumberText.ofDouble` — the numeral of a double: its shortest decimal, positional from
  `1e-5` to below `1e16` and with a signed exponent elsewhere.
-/

import SpanIntake.Json.Value
import SpanIntake.Decimal.Shortest

set_option relaxedAutoImplicit false
set_option autoImplicit false

namespace SpanIntake.Json

/-- The number of a numeral. -/
inductive Number where
  /-- An integer of 64 bits, signed or unsigned. -/
  | int (n : Int)
  /-- A double. -/
  | double (d : Double)
  deriving DecidableEq, Repr

/-- The value of a decimal digit. -/
def digitValue (c : Char) : Nat := c.toNat - 48

/-- The natural number that decimal digits spell. -/
def digitsValue (ds : List Char) : Nat := ds.foldl (fun n c => 10 * n + digitValue c) 0

/-- Digits taken into a significand while it fits an unsigned 64-bit word; the significand and the
digits left over. -/
def takeDigits : Nat → List Char → Nat × List Char
  | n, [] => (n, [])
  | n, c :: rest =>
    let next := 10 * n + digitValue c
    if next < UInt64.size then takeDigits next rest else (n, c :: rest)

/-- The double nearest to a power of ten. -/
def powerOfTen (k : Nat) : Double := Double.ofNat (Nat.pow 10 k)

/-- A significand scaled by a power of ten, multiplied or divided once; a power below `1e-308` is
split off first, as often as the first argument allows.  Nothing beyond the range of doubles. -/
def scale : Nat → Double → Int → Option Double
  | 0, d, _ => some d
  | more + 1, d, k =>
    if k.natAbs ≤ 308 then
      if 0 ≤ k then
        let r := d.mul (powerOfTen k.toNat)
        if r.parts = .infinite false then none else some r
      else some (d.div (powerOfTen k.natAbs))
    else if d = Double.zero then some d
    else if 0 ≤ k then none
    else scale more (d.div (powerOfTen 308)) (k + 308)

/-- The double of a significand and a power of ten. -/
def scaled? (negative : Bool) (significand : Nat) (k : Int) : Option Double :=
  (scale 4 (Double.ofNat significand) k).map fun d => if negative then d.neg else d

/-- The double that a numeral stands for; nothing beyond the range. -/
def NumberText.double? (n : NumberText) : Option Double :=
  let (whole, skipped) := takeDigits 0 n.whole
  let (significand, left) := takeDigits whole n.fraction
  let places : Int := skipped.length - (n.fraction.length - left.length : Nat)
  match n.power with
  | none => scaled? n.negative significand places
  | some (sign, digits) =>
    let size := digitsValue digits
    if 2147483648 ≤ size then
      if significand ≠ 0 ∧ sign ≠ some '-' then none
      else some (if n.negative then Double.zero.neg else Double.zero)
    else scaled? n.negative significand (if sign = some '-' then places - size else places + size)

/-- The number of a numeral.  Zero with a minus sign is a double, since no integer has it. -/
def NumberText.value? (n : NumberText) : Option Number :=
  if n.fraction.isEmpty ∧ n.power.isNone then
    let size := digitsValue n.whole
    if n.negative then
      if 0 < size ∧ size ≤ 9223372036854775808 then some (.int (-size)) else n.double?.map .double
    else if size < UInt64.size then some (.int size) else n.double?.map .double
  else n.double?.map .double

/-- The numeral of a decimal number. -/
def NumberText.ofDecimal (negative : Bool) (d : Decimal) : NumberText :=
  let ds := d.chars
  let lead : Int := d.exponent + ds.length - 1
  if 0 ≤ d.exponent ∧ lead ≤ 15 then
    ⟨negative, ds ++ List.replicate d.exponent.toNat '0', ['0'], none⟩
  else if 0 ≤ lead ∧ lead ≤ 15 then
    ⟨negative, ds.take (lead.toNat + 1), ds.drop (lead.toNat + 1), none⟩
  else if -5 ≤ lead ∧ lead < 0 then
    ⟨negative, ['0'], List.replicate (-lead - 1).toNat '0' ++ ds, none⟩
  else
    ⟨negative, ds.take 1, ds.drop 1,
      some (some (if lead < 0 then '-' else '+'), Nat.toDigits 10 lead.natAbs)⟩

/-- The numeral of a double, a tie between two shortest decimals going to the even one; nothing
for what is not finite. -/
def NumberText.ofDouble (d : Double) : Option NumberText :=
  match d.parts with
  | .finite negative m q =>
    some (if m = 0 then ⟨negative, ['0'], ['0'], none⟩
      else .ofDecimal negative (Decimal.shortest .even m q))
  | _ => none

/-- A double as a value: its numeral, or `null` where it is not finite. -/
def ofDouble (d : Double) : Json :=
  match NumberText.ofDouble d with
  | some n => .number n
  | none => .null

end SpanIntake.Json

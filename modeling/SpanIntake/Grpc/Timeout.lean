/-
**Timeouts of gRPC calls.**

A caller states how long it waits as up to eight digits and a letter for the unit.

Main definitions

* `Grpc.TimeoutUnit` — the units and their letters;
* `Grpc.timeout?` — the period that a header names;
* `Grpc.timeoutText?` — how a period is stated.
-/

import SpanIntake.Text.Blank
import SpanIntake.Time.Period

set_option relaxedAutoImplicit false
set_option autoImplicit false

namespace SpanIntake.Grpc

/-- The units of a timeout. -/
inductive TimeoutUnit where
  | hour
  | minute
  | second
  | millisecond
  | microsecond
  | nanosecond
  deriving DecidableEq, Repr

/-- The letter of a unit. -/
def TimeoutUnit.letter : TimeoutUnit → Char
  | hour => 'H'
  | minute => 'M'
  | second => 'S'
  | millisecond => 'm'
  | microsecond => 'u'
  | nanosecond => 'n'

/-- The nanoseconds of a unit. -/
def TimeoutUnit.nanos : TimeoutUnit → Nat
  | hour => 3600000000000
  | minute => 60000000000
  | second => 1000000000
  | millisecond => 1000000
  | microsecond => 1000
  | nanosecond => 1

/-- The unit of a letter. -/
def TimeoutUnit.ofLetter? (c : Char) : Option TimeoutUnit :=
  if c = 'H' then some hour
  else if c = 'M' then some minute
  else if c = 'S' then some second
  else if c = 'm' then some millisecond
  else if c = 'u' then some microsecond
  else if c = 'n' then some nanosecond
  else none

theorem TimeoutUnit.ofLetter?_letter (u : TimeoutUnit) : ofLetter? u.letter = some u := by
  cases u <;> rfl

theorem TimeoutUnit.letter_of_ofLetter? {c : Char} {u : TimeoutUnit} (h : ofLetter? c = some u) :
    u.letter = c := by
  grind [ofLetter?, letter]

/-- The units, the smallest first. -/
def TimeoutUnit.all : List TimeoutUnit :=
  [nanosecond, microsecond, millisecond, second, minute, hour]

/-- The number that digits write. -/
def digitsValue (ds : List Char) : Nat := ds.foldl (fun n c => n * 10 + (c.toNat - 48)) 0

theorem digitsValue_eq (ds : List Char) : digitsValue ds = Nat.ofDigitChars 10 ds 0 := by
  have hstep : (fun (n : Nat) (c : Char) => n * 10 + (c.toNat - 48)) =
      fun n c => 10 * n + (c.toNat - '0'.toNat) := by
    funext n c
    rw [Nat.mul_comm]
    rfl
  rw [digitsValue, hstep]
  rfl

/-- The period of a timeout: one to eight digits and the letter of a unit, with blanks around. -/
def timeout? (s : String) : Option Period :=
  let cs := Blank.trimChars s.toList
  let ds := cs.dropLast
  match cs.getLast? with
  | none => none
  | some c =>
    if 1 ≤ ds.length ∧ ds.length ≤ 8 ∧ ds.all Char.isDigit then
      (TimeoutUnit.ofLetter? c).map fun u => ⟨digitsValue ds * u.nanos⟩
    else none

/-- How a period is stated: the whole number of the smallest unit for which eight digits are enough.
Nothing states a hundred million hours or more. -/
def timeoutText? (p : Period) : Option String :=
  (TimeoutUnit.all.find? fun u => p.nanos / u.nanos < 100000000).map fun u =>
    String.ofList (Nat.toDigits 10 (p.nanos / u.nanos) ++ [u.letter])

end SpanIntake.Grpc

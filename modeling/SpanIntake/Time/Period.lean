/-
**Periods.**

A period is a length of time in whole nanoseconds.

Main definitions

* `Period` and its constructors `ofSeconds`, `ofMillis`, `ofMicros`, `ofNanos`;
* `Period.text` — a period in the largest of the units s, ms, µs, ns that it reaches, without
  trailing zeros;
* `Period.Within` — whether one period has passed when an alarm set for another goes off.
-/

set_option relaxedAutoImplicit false
set_option autoImplicit false

namespace SpanIntake

/-- A length of time. -/
structure Period where
  /-- Nanoseconds. -/
  nanos : Nat
  deriving DecidableEq, BEq, Repr

namespace Period

/-- A number of seconds. -/
def ofSeconds (n : Nat) : Period := ⟨n * 1000000000⟩

/-- A number of milliseconds. -/
def ofMillis (n : Nat) : Period := ⟨n * 1000000⟩

/-- A number of microseconds. -/
def ofMicros (n : Nat) : Period := ⟨n * 1000⟩

/-- A number of nanoseconds. -/
def ofNanos (n : Nat) : Period := ⟨n⟩

/-- Whole seconds. -/
def seconds (p : Period) : Nat := p.nanos / 1000000000

/-- Nanoseconds beyond the whole seconds. -/
def subNanos (p : Period) : Nat := p.nanos % 1000000000

instance : LE Period := ⟨fun p q => p.nanos ≤ q.nanos⟩

instance (p q : Period) : Decidable (p ≤ q) := inferInstanceAs (Decidable (p.nanos ≤ q.nanos))

/-- The shorter of two periods. -/
def shorter (p q : Period) : Period := if p.nanos ≤ q.nanos then p else q

theorem shorter_le_right (p q : Period) : shorter p q ≤ q := by
  show (shorter p q).nanos ≤ q.nanos
  unfold shorter
  split <;> omega

/-! ### Alarms -/

/-- Whole milliseconds, rounded up: alarms go off at a tick of a clock of milliseconds. -/
def ticks (p : Period) : Nat := (p.nanos + 999999) / 1000000

/-- Whether what takes the period `p` is done when an alarm set for `limit` goes off. -/
def Within (p limit : Period) : Prop := p.ticks ≤ limit.ticks

instance (p limit : Period) : Decidable (p.Within limit) :=
  inferInstanceAs (Decidable (p.ticks ≤ limit.ticks))

/-! ### Text -/

/-- The digits of a fraction of a power of ten, without trailing zeros. -/
def fractionDigits : Nat → Nat → List Char
  | 0, _ => []
  | places + 1, n =>
    if n = 0 then []
    else Nat.digitChar (n / Nat.pow 10 places) :: fractionDigits places (n % Nat.pow 10 places)

/-- A count of nanoseconds in a unit of `10 ^ places` of them. -/
def inUnit (places : Nat) (unit : String) (n : Nat) : String :=
  let whole := toString (n / Nat.pow 10 places)
  match fractionDigits places (n % Nat.pow 10 places) with
  | [] => whole ++ unit
  | ds => whole ++ "." ++ String.ofList ds ++ unit

/-- A period in the largest unit that it reaches. -/
def text (p : Period) : String :=
  if 1000000000 ≤ p.nanos then inUnit 9 "s" p.nanos
  else if 1000000 ≤ p.nanos then inUnit 6 "ms" p.nanos
  else if 1000 ≤ p.nanos then inUnit 3 "µs" p.nanos
  else inUnit 0 "ns" p.nanos

end Period

end SpanIntake

/-
**Instants.**

An instant is a count of whole seconds since 1970-01-01T00:00:00 and of nanoseconds within the
second.  The seconds cover the years -262143 to 262142.  Inside a leap second, which only a text
can name, the nanoseconds run on past the end of the second before it.

Main definitions

* `Instant` and its constructors `ofSeconds?`, `ofMicros?`, `ofNanos?`;
* `Instant.toMicros` — whole microseconds, rounded down;
* `Instant.toNanos` — nanoseconds;
* `Instant.exportNanos` — nanoseconds as exported: zero where they are negative or do not fit a
  signed 64-bit word.
-/

set_option relaxedAutoImplicit false
set_option autoImplicit false

namespace SpanIntake

/-- A point in time. -/
structure Instant where
  /-- Whole seconds since the epoch, rounded down. -/
  seconds : Int
  /-- Nanoseconds within the second; a billion and more inside a leap second. -/
  nanos : Nat
  /-- Not before the year -262143. -/
  ge_min : -8334601228800 ≤ seconds
  /-- Not after the year 262142. -/
  le_max : seconds ≤ 8210266876799
  /-- A leap second is one second long. -/
  nanos_lt : nanos < 2000000000
  deriving DecidableEq

namespace Instant

/-- The least count of seconds. -/
def minSeconds : Int := -8334601228800

/-- The greatest count of seconds. -/
def maxSeconds : Int := 8210266876799

/-- The instant with given seconds and nanoseconds, if it is in range. -/
def ofSeconds? (seconds : Int) (nanos : Nat) : Option Instant :=
  if h : minSeconds ≤ seconds ∧ seconds ≤ maxSeconds ∧ nanos < 2000000000 then
    some ⟨seconds, nanos, h.1, h.2.1, h.2.2⟩
  else none

/-- The instant a count of nanoseconds after the epoch, if it is in range. -/
def ofNanos? (n : Int) : Option Instant := ofSeconds? (n / 1000000000) (n % 1000000000).toNat

/-- The instant a count of microseconds after the epoch, if it is in range. -/
def ofMicros? (n : Int) : Option Instant := ofNanos? (n * 1000)

/-- Nanoseconds since the epoch. -/
def toNanos (t : Instant) : Int := t.seconds * 1000000000 + t.nanos

/-- Whole microseconds since the epoch, rounded down. -/
def toMicros (t : Instant) : Int := t.seconds * 1000000 + (t.nanos / 1000 : Nat)

/-- Nanoseconds as exported: zero before the epoch and beyond a signed 64-bit word. -/
def exportNanos (t : Instant) : UInt64 :=
  if 0 ≤ t.toNanos ∧ t.toNanos ≤ Int64.maxValue.toInt then UInt64.ofNat t.toNanos.toNat else 0

end Instant

end SpanIntake

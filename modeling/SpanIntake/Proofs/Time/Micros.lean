/-
**Instants in whole microseconds.**

What goes out in microseconds comes back at the beginning of its microsecond, unless it lies inside
a leap second, which no count of microseconds names.  Every instant has a count of microseconds
that fits a signed 64-bit word; the microseconds between two of them may not.

Main definitions:

* `Instant.IsOrdinary` — the instant lies in no leap second;
* `Instant.floorMicros` — the beginning of the microsecond of an instant.

Main results:

* `Instant.ofMicros?_eq_some_iff` — the instant of a count of microseconds;
* `Instant.ofMicros?_toMicros` — **an ordinary instant comes back at the beginning of its
  microsecond**;
* `Instant.toInt_ofInt_toMicros` — the microseconds of an instant fit their word.
-/

import SpanIntake.Bytes.Word
import SpanIntake.Time.Instant

set_option relaxedAutoImplicit false
set_option autoImplicit false

namespace SpanIntake

theorem fitsInt64_iff {n : Int} :
    fitsInt64 n = true ↔ Int64.minValue.toInt ≤ n ∧ n ≤ Int64.maxValue.toInt := by
  simp only [fitsInt64, Bool.and_eq_true, decide_eq_true_iff]

/-- An integer that fits a word is written into it unchanged. -/
theorem toInt_ofInt_of_fitsInt64 {n : Int} (h : fitsInt64 n = true) :
    (Int64.ofInt n).toInt = n := by
  obtain ⟨hmin, hmax⟩ := fitsInt64_iff.1 h
  exact Int64.toInt_ofInt_of_le hmin (Int.lt_add_one_of_le hmax)

theorem fitsInt64_toInt (n : Int64) : fitsInt64 n.toInt = true :=
  fitsInt64_iff.2 ⟨n.minValue_le_toInt, n.toInt_le⟩

/-- A sum that fits a word is not wrapped. -/
theorem toInt_add_of_fitsInt64 {a b : Int64} (h : fitsInt64 (a.toInt + b.toInt) = true) :
    (a + b).toInt = a.toInt + b.toInt := by
  have hsum := toInt_ofInt_of_fitsInt64 h
  rwa [Int64.ofInt_add, Int64.ofInt_toInt, Int64.ofInt_toInt] at hsum

namespace Instant

/-- The instant lies in no leap second. -/
def IsOrdinary (t : Instant) : Prop := t.nanos < 1000000000

/-- The beginning of the microsecond of an instant. -/
def floorMicros (t : Instant) : Instant where
  seconds := t.seconds
  nanos := t.nanos / 1000 * 1000
  ge_min := t.ge_min
  le_max := t.le_max
  nanos_lt := Nat.lt_of_le_of_lt (Nat.div_mul_le_self _ _) t.nanos_lt

theorem ext {t u : Instant} (hseconds : t.seconds = u.seconds) (hnanos : t.nanos = u.nanos) :
    t = u := by
  cases t
  cases u
  cases hseconds
  cases hnanos
  rfl

theorem ofSeconds?_eq_some_iff {seconds : Int} {nanos : Nat} {t : Instant} :
    ofSeconds? seconds nanos = some t ↔ t.seconds = seconds ∧ t.nanos = nanos := by
  constructor
  · intro h
    unfold ofSeconds? at h
    split at h
    · cases h; exact ⟨rfl, rfl⟩
    · cases h
  · rintro ⟨rfl, rfl⟩
    exact dif_pos ⟨t.ge_min, t.le_max, t.nanos_lt⟩

/-- **The instant of a count of nanoseconds is the ordinary one that has it.** -/
theorem ofNanos?_eq_some_iff {n : Int} {t : Instant} :
    ofNanos? n = some t ↔ t.toNanos = n ∧ t.IsOrdinary := by
  rw [ofNanos?, ofSeconds?_eq_some_iff, toNanos, IsOrdinary]
  omega

/-- **The instant of a count of microseconds is the ordinary one that has it.** -/
theorem ofMicros?_eq_some_iff {n : Int} {t : Instant} :
    ofMicros? n = some t ↔ t.toNanos = n * 1000 ∧ t.IsOrdinary :=
  ofNanos?_eq_some_iff

theorem toMicros_eq_ediv (t : Instant) : t.toMicros = t.toNanos / 1000 := by
  simp only [toMicros, toNanos]
  omega

theorem toMicros_of_ofMicros? {n : Int} {t : Instant} (h : ofMicros? n = some t) :
    t.toMicros = n := by
  have hnanos := (ofMicros?_eq_some_iff.1 h).1
  rw [toMicros_eq_ediv]
  omega

theorem toMicros_le_toMicros {t u : Instant} (h : t.toNanos ≤ u.toNanos) :
    t.toMicros ≤ u.toMicros := by
  rw [toMicros_eq_ediv, toMicros_eq_ediv]
  omega

/-- **An ordinary instant comes back at the beginning of its microsecond.** -/
theorem ofMicros?_toMicros {t : Instant} (h : t.IsOrdinary) :
    ofMicros? t.toMicros = some t.floorMicros := by
  rw [IsOrdinary] at h
  rw [ofMicros?_eq_some_iff, toMicros, toNanos, IsOrdinary, floorMicros]
  dsimp only
  omega

theorem floorMicros_of_ofMicros? {n : Int} {t : Instant} (h : ofMicros? n = some t) :
    t.floorMicros = t := by
  have hnanos := (ofMicros?_eq_some_iff.1 h).1
  rw [toNanos] at hnanos
  refine ext rfl ?_
  show t.nanos / 1000 * 1000 = t.nanos
  omega

/-- The microseconds of an instant fit their word. -/
theorem toInt_ofInt_toMicros (t : Instant) : (Int64.ofInt t.toMicros).toInt = t.toMicros := by
  have hmin := t.ge_min
  have hmax := t.le_max
  have hnanos := t.nanos_lt
  refine Int64.toInt_ofInt_of_le ?_ ?_ <;> rw [toMicros] <;> omega

/-- What does not fit a word is no instant. -/
theorem fitsInt64_of_ofMicros? {n : Int} {t : Instant} (h : ofMicros? n = some t) :
    fitsInt64 n = true := by
  rw [← toMicros_of_ofMicros? h, ← toInt_ofInt_toMicros]
  exact fitsInt64_toInt _

end Instant

end SpanIntake

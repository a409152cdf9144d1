/-
**Instants are read back from their text.**

The writer fills numbers up to a fixed width, puts a sign in front of a year of more than four
digits, and writes as few places of a second as lose nothing.  Behind every number stands a mark or
another number of fixed width, so that the reader takes each as it was written.

Main results:

* `Rfc3339.number?_digits` — a run of digits is taken as the number it spells;
* `Rfc3339.date?_chars`, `Rfc3339.timeOfDay?_chars` — dates and times of day are read back;
* `Rfc3339.read?_write` — **an instant outside leap seconds is read back from its text**.
-/

import Mathlib.Algebra.Group.Nat.Defs
import SpanIntake.Proofs.Decimal.Digits
import SpanIntake.Proofs.Text.Trimming
import SpanIntake.Proofs.Time.Calendar
import SpanIntake.Proofs.Time.Micros
import SpanIntake.Time.Rfc3339

set_option relaxedAutoImplicit false
set_option autoImplicit false

namespace SpanIntake.Rfc3339

open Decimal

/-! ### Numbers of a width -/

theorem digitsValue_eq (ds : List Char) : digitsValue ds = Nat.ofDigitChars 10 ds 0 := rfl

/-- Zeros in front of a number do not count. -/
theorem digitsValue_padded (width n : Nat) : digitsValue (padded width n) = n := by
  rw [digitsValue_eq, padded, Nat.ofDigitChars_append, Nat.ofDigitChars_replicate_zero,
    Nat.mul_zero]
  exact Nat.ofDigitChars_toDigits (by decide) (by decide)

/-- Each zero behind a number multiplies it by ten. -/
theorem digitsValue_append_zeros (ds : List Char) (k : Nat) :
    digitsValue (ds ++ List.replicate k '0') = 10 ^ k * digitsValue ds := by
  rw [digitsValue_eq, Nat.ofDigitChars_append, Nat.ofDigitChars_replicate_zero]
  rfl

theorem isDigit_of_mem_padded {width n : Nat} {c : Char} (h : c ∈ padded width n) :
    c.isDigit = true := by
  rcases List.mem_append.1 h with h | h
  · rw [List.eq_of_mem_replicate h]
    rfl
  · exact Nat.isDigit_of_mem_toDigits (by decide) (by decide) h

theorem padded_ne_nil (width n : Nat) : padded width n ≠ [] :=
  List.append_ne_nil_of_right_ne_nil _ Nat.toDigits_ne_nil

theorem length_padded {width n : Nat} (hwidth : 0 < width) (hn : n < 10 ^ width) :
    (padded width n).length = width := by
  have hlength := (Nat.length_toDigits_le_iff (by decide) hwidth).2 hn
  rw [padded, List.length_append, List.length_replicate]
  omega

/-! ### Reading numbers -/

variable {ds rest : List Char}

/-- **A run of digits is taken as the number it spells**, if no digit follows or no more are asked
for. -/
theorem number?_digits {most : Nat} (hds : ∀ c ∈ ds, c.isDigit = true) (hne : ds ≠ [])
    (hmost : ds.length ≤ most) (hrest : ds.length = most ∨ NoDigit rest) :
    number? most (ds ++ rest) = some (digitsValue ds, rest) := by
  -- the count cuts the text off behind the digits, or no digit follows them
  have hstop : NoDigit (rest.take (most - ds.length)) := by
    rcases hrest with h | h
    · rw [h, Nat.sub_self]
      exact .nil
    · exact h.take _
  have htaken : ((ds ++ rest).take most).takeWhile Char.isDigit = ds := by
    rw [List.take_append, List.take_of_length_le hmost]
    exact takeWhile_digits hds hstop
  have hempty : ¬ ds.isEmpty = true := fun h => hne (List.isEmpty_iff.1 h)
  simp only [number?, htaken, if_neg hempty, List.drop_left]

theorem number?_padded {width n most : Nat} (hmost : (padded width n).length ≤ most)
    (hrest : (padded width n).length = most ∨ NoDigit rest) :
    number? most (padded width n ++ rest) = some (n, rest) := by
  rw [number?_digits (fun _ => isDigit_of_mem_padded) (padded_ne_nil width n) hmost hrest,
    digitsValue_padded]

theorem dropBlanks_cons {c : Char} (h : Blank.isBlank c = false) (cs : List Char) :
    Blank.dropBlanks (c :: cs) = c :: cs :=
  List.dropWhile_cons_of_neg (Bool.eq_false_iff.1 h)

/-- A number has a digit in front. -/
theorem exists_padded_eq_cons (width n : Nat) :
    ∃ c cs, c.isDigit = true ∧ padded width n = c :: cs := by
  cases h : padded width n with
  | nil => exact absurd h (padded_ne_nil width n)
  | cons c cs => exact ⟨c, cs, isDigit_of_mem_padded (h ▸ List.mem_cons_self), rfl⟩

theorem dropBlanks_padded (width n : Nat) :
    Blank.dropBlanks (padded width n ++ rest) = padded width n ++ rest := by
  obtain ⟨c, cs, hc, h⟩ := exists_padded_eq_cons width n
  rw [h]
  exact dropBlanks_cons (Blank.isBlank_of_isDigit hc) _

theorem twoDigits?_padded {n : Nat} (h : n < 100) (rest : List Char) :
    twoDigits? (padded 2 n ++ rest) = some (n, rest) := by
  have hlength := length_padded (by decide : 0 < 2) h
  rw [twoDigits?, dropBlanks_padded, number?_padded (Nat.le_of_eq hlength) (.inl hlength)]

theorem year?_minus (cs : List Char) :
    year? ('-' :: cs) = (number? cs.length cs).map fun r => (-(r.1 : Int), r.2) := rfl

theorem year?_plus (cs : List Char) :
    year? ('+' :: cs) = (number? cs.length cs).map fun r => ((r.1 : Int), r.2) := rfl

theorem year?_digit {c : Char} (h : c.isDigit = true) (cs : List Char) :
    year? (c :: cs) = (number? 4 (c :: cs)).map fun r => ((r.1 : Int), r.2) := by
  rw [year?, dropBlanks_cons (Blank.isBlank_of_isDigit h)]
  split
  case h_1 heq => cases heq; exact absurd h (by decide)
  case h_2 heq => cases heq; exact absurd h (by decide)
  case h_3 => rfl

/-- A year is read back, its sign telling how many digits it may have. -/
theorem year?_yearChars (year : Int) (hrest : NoDigit rest) :
    year? (yearChars year ++ rest) = some (year, rest) := by
  have hsigned : ∀ n, number? (padded 4 n ++ rest).length (padded 4 n ++ rest) = some (n, rest) :=
    fun n => number?_padded (by rw [List.length_append]; omega) (.inr hrest)
  unfold yearChars
  split
  case isTrue h =>
    have hlength := length_padded (by decide : 0 < 4) (by omega : year.toNat < 10 ^ 4)
    have hnumber : number? 4 (padded 4 year.toNat ++ rest) = some (year.toNat, rest) :=
      number?_padded (Nat.le_of_eq hlength) (.inl hlength)
    obtain ⟨c, cs, hc, hcs⟩ := exists_padded_eq_cons 4 year.toNat
    have hyear : ((year.toNat : Nat) : Int) = year := Int.toNat_of_nonneg h.1
    rw [hcs, List.cons_append] at hnumber ⊢
    rw [year?_digit hc, hnumber, Option.map_some, hyear]
  case isFalse h =>
    rw [List.cons_append]
    by_cases hneg : year < 0
    · have hyear : -((year.natAbs : Nat) : Int) = year := by omega
      rw [if_pos hneg, year?_minus, hsigned, Option.map_some, hyear]
    · have hyear : ((year.natAbs : Nat) : Int) = year := by omega
      rw [if_neg hneg, year?_plus, hsigned, Option.map_some, hyear]

/-! ### Marks between numbers -/

theorem separator?_cons {c : Char} (h : Blank.isBlank c = false) (cs : List Char) :
    separator? c (c :: cs) = some cs := by
  rw [separator?, dropBlanks_cons h]
  exact if_pos rfl

/-! ### Places of a second -/

theorem fraction?_padded {places n : Nat} (hplaces : 0 < places) (hmost : places ≤ 9)
    (hn : n < 10 ^ places) (hrest : NoDigit rest) :
    fraction? ('.' :: padded places n ++ rest) = some (10 ^ (9 - places) * n, rest) := by
  have hlength := length_padded hplaces hn
  have htaken : (padded places n ++ rest).takeWhile Char.isDigit = padded places n :=
    takeWhile_digits (fun _ => isDigit_of_mem_padded) hrest
  have hempty : ¬ (padded places n).isEmpty = true := fun h =>
    padded_ne_nil places n (List.isEmpty_iff.1 h)
  -- zeros fill the places up to nine, and each of them multiplies by ten
  have hnine : (padded places n ++ List.replicate 9 '0').take 9 =
      padded places n ++ List.replicate (9 - places) '0' := by
    rw [List.take_append, List.take_of_length_le (by omega), hlength, List.take_replicate,
      Nat.min_eq_left (by omega)]
  simp only [fraction?, List.cons_append, htaken, if_neg hempty, hnine, digitsValue_append_zeros,
    digitsValue_padded, List.drop_left]

/-- As few places as lose nothing lose nothing. -/
theorem fraction?_fractionChars {nanos : Nat} (h : nanos < 1000000000) :
    fraction? (fractionChars .needed nanos ++ ['Z']) = some (nanos, ['Z']) := by
  have hrest : NoDigit ['Z'] := .cons (by decide) []
  unfold fractionChars
  dsimp only
  split
  case isTrue hzero => rw [hzero]; rfl
  split
  case isTrue hthree =>
    rw [fraction?_padded (by decide) (by decide) (by omega) hrest]
    congr 2
    omega
  split
  case isTrue hsix =>
    rw [fraction?_padded (by decide) (by decide) (by omega) hrest]
    congr 2
    omega
  case isFalse =>
    rw [fraction?_padded (by decide) (by decide) (by omega) hrest]
    congr 2
    omega

/-! ### Dates and times of day -/

theorem date?_chars {d : Date} (hmonth : d.month < 100) (hday : d.day < 100) (rest : List Char) :
    date? (yearChars d.year ++ ('-' :: (padded 2 d.month ++ ('-' :: (padded 2 d.day ++ rest))))) =
      some (d, rest) := by
  have hmark : Blank.isBlank '-' = false := by decide
  have hstop : ∀ cs, NoDigit ('-' :: cs) := .cons (by decide)
  simp only [date?, year?_yearChars d.year (hstop _), separator?_cons hmark,
    twoDigits?_padded hmonth, twoDigits?_padded hday, Option.bind_eq_bind, Option.bind_some]
  rfl

theorem timeOfDay?_chars {hour minute second nanos : Nat} (hhour : hour ≤ 23)
    (hminute : minute ≤ 59) (hsecond : second ≤ 59) (hnanos : nanos < 1000000000) :
    timeOfDay? (padded 2 hour ++ (':' :: (padded 2 minute ++ (':' :: (padded 2 second
      ++ (fractionChars .needed nanos ++ ['Z'])))))) =
      some (hour * 3600 + minute * 60 + second, nanos, ['Z']) := by
  have hmark : Blank.isBlank ':' = false := by decide
  have hleap : second ≠ 60 := by omega
  have hrange : hour ≤ 23 ∧ minute ≤ 59 ∧ second ≤ 60 := by omega
  simp only [timeOfDay?, twoDigits?_padded (show hour < 100 by omega), separator?_cons hmark,
    twoDigits?_padded (show minute < 100 by omega), twoDigits?_padded (show second < 100 by omega),
    fraction?_fractionChars hnanos, Option.bind_eq_bind, Option.bind_some, if_pos hrange,
    if_neg hleap]
  rfl

theorem daysIn_le (year : Int) (month : Nat) : Date.daysIn year month ≤ 31 := by
  unfold Date.daysIn
  repeat' split
  all_goals decide

theorem lt_hundred_of_isValid {d : Date} (h : d.isValid = true) : d.month < 100 ∧ d.day < 100 := by
  have hdays := daysIn_le d.year d.month
  simp only [Date.isValid, Bool.and_eq_true, decide_eq_true_eq] at h
  omega

/-! ### Instants -/

/-- The text of an instant outside leap seconds, the parts one behind the other. -/
theorem chars_eq {t : Instant} (h : t.IsOrdinary) {date : Date} {ofDay : Nat}
    (hdate : date = Date.ofDays (t.seconds / 86400)) (hofDay : ofDay = (t.seconds % 86400).toNat) :
    chars .needed .letter t = yearChars date.year ++ ('-' :: (padded 2 date.month
      ++ ('-' :: (padded 2 date.day ++ ('T' :: (padded 2 (ofDay / 3600) ++ (':' ::
      (padded 2 (ofDay / 60 % 60) ++ (':' :: (padded 2 (ofDay % 60)
      ++ (fractionChars .needed t.nanos ++ ['Z']))))))))))) := by
  have hwhole : t.nanos / 1000000000 = 0 := Nat.div_eq_of_lt h
  have hpart : t.nanos % 1000000000 = t.nanos := Nat.mod_eq_of_lt h
  simp only [chars, ← hdate, ← hofDay, hwhole, hpart, Nat.add_zero, Zone.chars, List.append_assoc,
    List.cons_append]

/-- **An instant outside leap seconds is read back from its text.** -/
theorem read?_write {t : Instant} (h : t.IsOrdinary) :
    read? (write .needed .letter t) = some t := by
  obtain ⟨date, hdate⟩ : ∃ date, date = Date.ofDays (t.seconds / 86400) := ⟨_, rfl⟩
  obtain ⟨ofDay, hofDay⟩ : ∃ ofDay, ofDay = (t.seconds % 86400).toNat := ⟨_, rfl⟩
  have hvalid : date.isValid = true := by rw [hdate]; exact Date.isValid_ofDays _
  have hdays : date.toDays = t.seconds / 86400 := by rw [hdate]; exact Date.toDays_ofDays _
  obtain ⟨hmonth, hday⟩ := lt_hundred_of_isValid hvalid
  have hmin := t.ge_min
  have hmax := t.le_max
  have htime := timeOfDay?_chars (by omega : ofDay / 3600 ≤ 23) (by omega : ofDay / 60 % 60 ≤ 59)
    (by omega : ofDay % 60 ≤ 59) h
  -- hours, minutes and seconds make up the day again, and the days before it the instant
  have hsum : ofDay / 3600 * 3600 + ofDay / 60 % 60 * 60 + ofDay % 60 = ofDay := by omega
  have hrange : dayRange.1 ≤ date.toDays ∧ date.toDays ≤ dayRange.2 := by
    have hfirst : dayRange.1 = -96465292 := by decide
    have hlast : dayRange.2 = 95026236 := by decide
    omega
  have hseconds : date.toDays * 86400 + ofDay - 0 = t.seconds := by omega
  have hoffset : offset? (Blank.dropBlanks ['Z']) = some (0, []) := rfl
  have hmark : ∀ cs, dateTimeMark? ('T' :: cs) = some cs := fun _ => rfl
  have haccepted : (Blank.dropBlanks []).isEmpty = true ∧ date.isValid = true ∧
      (0 : Int).natAbs < 86400 ∧ dayRange.1 ≤ date.toDays ∧ date.toDays ≤ dayRange.2 :=
    ⟨rfl, hvalid, by decide, hrange⟩
  simp only [read?, write, String.toList_ofList, chars_eq h hdate hofDay, date?_chars hmonth hday,
    hmark, htime, hsum, hoffset, Option.bind_eq_bind, Option.bind_some, if_pos haccepted, hseconds]
  exact Instant.ofSeconds?_eq_some_iff.2 ⟨rfl, rfl⟩

end SpanIntake.Rfc3339

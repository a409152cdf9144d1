/-
**Days and dates go back and forth.**

Four hundred years from the first of March on are an era of 146097 days.  Within an era, the year of
a day grows with the day, so that it is enough to look at the first and the last day of each of the
four hundred years.  The days of a year fall into months by a fixed pattern, whose last month is the
only one that a leap year changes.

Main definitions:

* `Date.yearOfEra` — the year of a day of the era;
* `Date.firstDay`, `Date.lastDay` — the days between which a year of the era lies.

Main results:

* `Date.between_of_yearOfEra` — a day lies in its year;
* `Date.toDays_ofDays` — **a count of days is read back from its date**;
* `Date.isValid_ofDays` — its month and day exist.
-/

import SpanIntake.Time.Calendar

set_option relaxedAutoImplicit false
set_option autoImplicit false

namespace SpanIntake.Date

/-! ### Years of an era -/

/-- The year of a day of the era. -/
def yearOfEra (day : Int) : Int := (day - day / 1460 + day / 36524 - day / 146096) / 365

/-- The day of the era on which a year begins. -/
def firstDay (year : Int) : Int := 365 * year + year / 4 - year / 100

/-- The day of the era on which a year ends; the last year of the era has a leap day. -/
def lastDay (year : Int) : Int := firstDay (year + 1) - 1 + (year + 1) / 400

theorem yearOfEra_mono {a b : Int} (ha : 0 ≤ a) (hab : a ≤ b) (hb : b ≤ 146096) :
    yearOfEra a ≤ yearOfEra b := by
  have hfours : a - a / 1460 ≤ b - b / 1460 := by omega
  -- the last day of the era would begin a fifth century, but for the third quotient
  have hcenturies : a / 36524 - a / 146096 ≤ b / 36524 - b / 146096 := by
    rcases Int.lt_or_le b 146096 with h | h <;> omega
  exact Int.ediv_le_ediv (by decide) (by omega)

/-- The first and the last day of every year of the era are in it. -/
theorem yearOfEra_ends {year : Int} (h₀ : 0 ≤ year) (h₁ : year ≤ 399) :
    yearOfEra (firstDay year) = year ∧ yearOfEra (lastDay year) = year := by
  -- the quotients jump at days without a common pattern, so that every year is looked at
  have hall : ∀ y : Fin 400, yearOfEra (firstDay (y.val : Int)) = y.val ∧
      yearOfEra (lastDay (y.val : Int)) = y.val := by
    decide +kernel
  have hyear := hall ⟨year.toNat, by omega⟩
  simpa only [Int.toNat_of_nonneg h₀] using hyear

theorem yearOfEra_bounds {day : Int} (h₀ : 0 ≤ day) (h₁ : day ≤ 146096) :
    0 ≤ yearOfEra day ∧ yearOfEra day ≤ 399 := by
  have hfirst : yearOfEra 0 = 0 := rfl
  have hlast : yearOfEra 146096 = 399 := by decide
  have hlow := yearOfEra_mono (Int.le_refl 0) h₀ h₁
  have hhigh := yearOfEra_mono h₀ h₁ (Int.le_refl _)
  omega

/-- **A day lies in its year**: a day before or behind it would have another one. -/
theorem between_of_yearOfEra {day : Int} (h₀ : 0 ≤ day) (h₁ : day ≤ 146096) :
    firstDay (yearOfEra day) ≤ day ∧ day ≤ lastDay (yearOfEra day) := by
  obtain ⟨hlow, hhigh⟩ := yearOfEra_bounds h₀ h₁
  obtain ⟨year, hyear⟩ : ∃ year, year = yearOfEra day := ⟨_, rfl⟩
  rw [← hyear] at hlow hhigh ⊢
  constructor
  · refine Int.not_lt.1 fun hbefore => ?_
    have hpos : 0 < year := by
      unfold firstDay at hbefore
      omega
    have hprev : day ≤ lastDay (year - 1) ∧ lastDay (year - 1) ≤ 146096 := by
      rw [lastDay, Int.sub_add_cancel]
      unfold firstDay at hbefore ⊢
      omega
    have hends : yearOfEra (lastDay (year - 1)) = year - 1 :=
      (yearOfEra_ends (by omega) (by omega)).2
    have hmono := yearOfEra_mono h₀ hprev.1 hprev.2
    omega
  · refine Int.not_lt.1 fun hbehind => ?_
    have hmore : year < 399 := by
      unfold lastDay firstDay at hbehind
      omega
    have hnext : 0 ≤ firstDay (year + 1) ∧ firstDay (year + 1) ≤ day := by
      unfold lastDay firstDay at hbehind
      unfold firstDay
      omega
    have hends : yearOfEra (firstDay (year + 1)) = year + 1 :=
      (yearOfEra_ends (by omega) (by omega)).1
    have hmono := yearOfEra_mono hnext.1 hnext.2 h₁
    omega

/-! ### Days of a year -/

/-- The date of a day of a year, both counted from March. -/
def ofMarch (year dayOfYear : Int) : Date :=
  let fromMarch := (5 * dayOfYear + 2) / 153
  let month := if fromMarch < 10 then fromMarch + 3 else fromMarch - 9
  ⟨if month ≤ 2 then year + 1 else year, month.toNat,
    (dayOfYear - (153 * fromMarch + 2) / 5 + 1).toNat⟩

/-- The days before a year that is counted from March. -/
def daysBefore (year : Int) : Int := year / 400 * 146097 + firstDay (year % 400) - 719468

theorem toDays_ofMarch {year dayOfYear : Int} (h₀ : 0 ≤ dayOfYear) (h₁ : dayOfYear ≤ 365) :
    (ofMarch year dayOfYear).toDays = daysBefore year + dayOfYear := by
  obtain ⟨m, hm⟩ : ∃ m, m = (5 * dayOfYear + 2) / 153 := ⟨_, rfl⟩
  simp only [ofMarch, toDays, daysBefore, firstDay, ← hm]
  -- from March to December the year is the same, and in January and February one more
  rcases Int.lt_or_le m 10 with hlt | hge
  · have hmonth : ¬ m + 3 ≤ 2 := by omega
    have hnat : ¬ (m + 3).toNat ≤ 2 := by omega
    have hfrom : (((m + 3).toNat + 9) % 12 : Nat) = m.toNat := by omega
    simp only [if_pos hlt, if_neg hmonth, if_neg hnat, hfrom]
    omega
  · have hmonth : m - 9 ≤ 2 := by omega
    have hnat : (m - 9).toNat ≤ 2 := by omega
    have hfrom : (((m - 9).toNat + 9) % 12 : Nat) = m.toNat := by omega
    simp only [if_neg (Int.not_lt.2 hge), if_pos hmonth, if_pos hnat, hfrom, Int.add_sub_cancel]
    omega

theorem isLeap_iff {year : Int} :
    isLeap year = true ↔ year % 4 = 0 ∧ (year % 100 ≠ 0 ∨ year % 400 = 0) := by
  simp [isLeap]

theorem isValid_ofMarch {year dayOfYear : Int} (h₀ : 0 ≤ dayOfYear)
    (h₁ : dayOfYear ≤ if isLeap (year + 1) then 365 else 364) :
    (ofMarch year dayOfYear).isValid = true := by
  obtain ⟨m, hm⟩ : ∃ m, m = (5 * dayOfYear + 2) / 153 := ⟨_, rfl⟩
  have h365 : dayOfYear ≤ 365 := by split at h₁ <;> omega
  simp only [ofMarch, isValid, Bool.and_eq_true, decide_eq_true_eq, ← hm]
  rcases Int.lt_or_le m 10 with hlt | hge
  · have hmonth : ¬ m + 3 ≤ 2 := by omega
    simp only [if_pos hlt, if_neg hmonth, daysIn]
    refine ⟨⟨⟨by omega, by omega⟩, by omega⟩, ?_⟩
    split
    · omega
    · split <;> omega
  · have hmonth : m - 9 ≤ 2 := by omega
    simp only [if_neg (Int.not_lt.2 hge), if_pos hmonth, daysIn]
    refine ⟨⟨⟨by omega, by omega⟩, by omega⟩, ?_⟩
    split
    · by_cases hleap : isLeap (year + 1)
      · rw [if_pos hleap] at h₁ ⊢
        omega
      · rw [if_neg hleap] at h₁ ⊢
        omega
    · split <;> omega

/-! ### Dates of days -/

/-- A count of days as an era, a year of it and a day of that year. -/
theorem ofDays_eq_ofMarch (days : Int) :
    ∃ year dayOfYear, ofDays days = ofMarch year dayOfYear ∧ 0 ≤ dayOfYear ∧
      (dayOfYear ≤ if isLeap (year + 1) then 365 else 364) ∧
      daysBefore year + dayOfYear = days := by
  obtain ⟨era, hera⟩ : ∃ era, era = (days + 719468) / 146097 := ⟨_, rfl⟩
  obtain ⟨day, hday⟩ : ∃ day, day = (days + 719468) % 146097 := ⟨_, rfl⟩
  have hlow : 0 ≤ day := by omega
  have hhigh : day ≤ 146096 := by omega
  have hbetween := between_of_yearOfEra hlow hhigh
  have hbounds := yearOfEra_bounds hlow hhigh
  obtain ⟨y, hy⟩ : ∃ y, y = yearOfEra day := ⟨_, rfl⟩
  refine ⟨y + era * 400, day - firstDay y, by rw [hy, hday, hera]; rfl, ?_, ?_, ?_⟩
  · rw [hy]
    omega
  · rw [← hy] at hbetween hbounds
    have hleap : isLeap (y + era * 400 + 1) = true ↔
        (y + 1) % 4 = 0 ∧ ((y + 1) % 100 ≠ 0 ∨ (y + 1) % 400 = 0) := by
      rw [isLeap_iff]
      omega
    unfold lastDay firstDay at hbetween
    unfold firstDay
    by_cases h : isLeap (y + era * 400 + 1)
    · rw [if_pos h]
      omega
    · -- without a leap day no fourth year ends here, or a hundredth ends with it
      have hfour : (y + 1) / 4 = y / 4 ∨ (y + 1) % 4 = 0 ∧ (y + 1) / 4 = y / 4 + 1 := by omega
      have hhundred : (y + 1) / 100 = y / 100 ∧ (y + 1) % 100 ≠ 0 ∨
          (y + 1) / 100 = y / 100 + 1 := by omega
      have hera : (y + 1) / 400 = 0 ∨ (y + 1) % 400 = 0 := by omega
      rw [if_neg h]
      rw [hleap] at h
      omega
  · have hmod : (y + era * 400) % 400 = y := by omega
    have hdiv : (y + era * 400) / 400 = era := by omega
    rw [daysBefore, hmod, hdiv]
    omega

/-- **A count of days is read back from its date.** -/
theorem toDays_ofDays (days : Int) : (ofDays days).toDays = days := by
  obtain ⟨year, dayOfYear, heq, hlow, hhigh, hsum⟩ := ofDays_eq_ofMarch days
  rw [heq, toDays_ofMarch hlow (by split at hhigh <;> omega), hsum]

/-- Its month and day exist. -/
theorem isValid_ofDays (days : Int) : (ofDays days).isValid = true := by
  obtain ⟨year, dayOfYear, heq, hlow, hhigh, _⟩ := ofDays_eq_ofMarch days
  rw [heq]
  exact isValid_ofMarch hlow hhigh

end SpanIntake.Date

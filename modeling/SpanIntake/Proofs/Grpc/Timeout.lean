/-
**Stated timeouts.**

A caller states a timeout in one to eight digits and the letter of a unit, with blanks around.  No
other text states any, whatever characters it is made of.  The text that is made of a period states
the whole units of it, and only of periods that are far too long is there none.

Main definitions:

* `Grpc.Wording`, `Grpc.States` — the texts that state a timeout, and which one.

Main results:

* `Grpc.timeout?_eq_some_iff` — **which timeout a text states**;
* `Grpc.Wording.ascii` — such a text is ASCII but for the blanks;
* `Grpc.timeoutText?_eq_none_iff` — which periods cannot be stated;
* `Grpc.states_of_timeoutText?` — **what the text of a period states**.
-/

import SpanIntake.Grpc.Timeout
import SpanIntake.Proofs.Text.Trimming

set_option relaxedAutoImplicit false
set_option autoImplicit false

namespace SpanIntake.Grpc

/-- A text of one to eight digits and the letter of a unit, with blanks around. -/
structure Wording (s : String) (ds : List Char) (u : TimeoutUnit) : Prop where
  trimmed : Blank.trimChars s.toList = ds ++ [u.letter]
  nonempty : 1 ≤ ds.length
  few : ds.length ≤ 8
  digits : ∀ c ∈ ds, c.isDigit = true

/-- A text states as many units as its digits say. -/
def States (s : String) (p : Period) : Prop :=
  ∃ ds u, Wording s ds u ∧ p.nanos = Nat.ofDigitChars 10 ds 0 * u.nanos

theorem timeout?_of_trimmed {s : String} {ds : List Char} {c : Char}
    (h : Blank.trimChars s.toList = ds ++ [c]) :
    timeout? s = if 1 ≤ ds.length ∧ ds.length ≤ 8 ∧ ds.all Char.isDigit then
      (TimeoutUnit.ofLetter? c).map fun u => ⟨digitsValue ds * u.nanos⟩ else none := by
  simp only [timeout?, h, List.getLast?_concat, List.dropLast_concat]

/-- **Which timeout a text states.** -/
theorem timeout?_eq_some_iff {s : String} {p : Period} : timeout? s = some p ↔ States s p := by
  constructor
  · intro h
    rcases List.eq_nil_or_concat (Blank.trimChars s.toList) with hnil | ⟨ds, c, hchars⟩
    · simp [timeout?, hnil] at h
    · rw [List.concat_eq_append] at hchars
      rw [timeout?_of_trimmed hchars] at h
      split at h
      case isFalse => cases h
      case isTrue hds =>
        obtain ⟨u, hu, rfl⟩ := Option.map_eq_some_iff.1 h
        obtain rfl := TimeoutUnit.letter_of_ofLetter? hu
        refine ⟨ds, u, ⟨hchars, hds.1, hds.2.1, List.all_eq_true.1 hds.2.2⟩, ?_⟩
        rw [digitsValue_eq]
  · rintro ⟨ds, u, hwording, hp⟩
    have hall : ds.all Char.isDigit = true := List.all_eq_true.2 hwording.digits
    rw [timeout?_of_trimmed hwording.trimmed, if_pos ⟨hwording.nonempty, hwording.few, hall⟩,
      TimeoutUnit.ofLetter?_letter, Option.map_some, digitsValue_eq, ← hp]

/-- What states a timeout is ASCII but for the blanks around it. -/
theorem Wording.ascii {s : String} {ds : List Char} {u : TimeoutUnit} (h : Wording s ds u) :
    ∀ c ∈ Blank.trimChars s.toList, c.toNat < 128 := by
  rw [h.trimmed]
  intro c hc
  rcases List.mem_append.1 hc with hdigit | hletter
  · have hrange : 48 ≤ c.toNat ∧ c.toNat ≤ 57 := Char.isDigit_iff_toNat.1 (h.digits c hdigit)
    omega
  · obtain rfl := List.mem_singleton.1 hletter
    cases u <;> decide

theorem Wording.two_le_length {s : String} {ds : List Char} {u : TimeoutUnit} (h : Wording s ds u) :
    2 ≤ (Blank.trimChars s.toList).length := by
  rw [h.trimmed, List.length_append]
  exact Nat.succ_le_succ h.nonempty

/-! ### Texts of periods -/

/-- **Which periods cannot be stated**: those of a hundred million hours or more. -/
theorem timeoutText?_eq_none_iff {p : Period} :
    timeoutText? p = none ↔ 100000000 * TimeoutUnit.hour.nanos ≤ p.nanos := by
  have hunit (u : TimeoutUnit) :
      ¬ decide (p.nanos / u.nanos < 100000000) = true ↔ 100000000 * u.nanos ≤ p.nanos := by
    rw [decide_eq_true_iff, Nat.not_lt, Nat.le_div_iff_mul_le (by cases u <;> decide)]
  rw [timeoutText?, Option.map_eq_none_iff, List.find?_eq_none]
  constructor
  · intro hnone
    exact (hunit .hour).1 (hnone .hour (by decide))
  · intro hlong u _
    -- the hour is the longest unit
    have hle : u.nanos ≤ TimeoutUnit.hour.nanos := by cases u <;> decide
    exact (hunit u).2 (Nat.le_trans (Nat.mul_le_mul_left _ hle) hlong)

/-- The text of a period is the whole number of a unit, in at most eight digits. -/
theorem eq_of_timeoutText?_eq_some {p : Period} {s : String} (h : timeoutText? p = some s) :
    ∃ u ∈ TimeoutUnit.all, (Nat.toDigits 10 (p.nanos / u.nanos)).length ≤ 8 ∧
      s.toList = Nat.toDigits 10 (p.nanos / u.nanos) ++ [u.letter] := by
  obtain ⟨u, hu, rfl⟩ := Option.map_eq_some_iff.1 h
  refine ⟨u, List.mem_of_find?_eq_some hu, ?_, String.toList_ofList⟩
  exact (Nat.length_toDigits_le_iff (by decide) (by decide)).2 (by simpa using List.find?_some hu)

theorem dropBlanks_toDigits (n : Nat) :
    Blank.dropBlanks (Nat.toDigits 10 n) = Nat.toDigits 10 n := by
  refine List.dropWhile_eq_self_iff.mpr fun hpos => ?_
  rw [Blank.isBlank_of_isDigit (Nat.isDigit_of_mem_toDigits (by decide) (by decide)
    (List.getElem_mem hpos))]
  exact Bool.false_ne_true

/-- **What the text of a period states**: the whole units of it, so never more than the period. -/
theorem states_of_timeoutText? {p : Period} {s : String} (h : timeoutText? p = some s) :
    ∃ u ∈ TimeoutUnit.all, States s ⟨p.nanos / u.nanos * u.nanos⟩ := by
  obtain ⟨u, hu, hfew, hchars⟩ := eq_of_timeoutText?_eq_some h
  have hblank : Blank.isBlank u.letter = false := by cases u <;> decide
  have hwording : Wording s (Nat.toDigits 10 (p.nanos / u.nanos)) u :=
    { trimmed := by
        rw [hchars, Blank.trimChars_append_cons hblank, dropBlanks_toDigits]
        rfl
      nonempty := Nat.length_toDigits_pos
      few := hfew
      digits := fun c hc => Nat.isDigit_of_mem_toDigits (by decide) (by decide) hc }
  refine ⟨u, hu, _, u, hwording, ?_⟩
  rw [Nat.ofDigitChars_toDigits (by decide) (by decide)]

/-- The text of a period is made of visible characters. -/
theorem visible_of_timeoutText? {p : Period} {s : String} (h : timeoutText? p = some s) :
    ∀ c ∈ s.toList, 32 ≤ c.toNat ∧ c.toNat < 127 := by
  obtain ⟨u, -, -, hchars⟩ := eq_of_timeoutText?_eq_some h
  rw [hchars]
  intro c hc
  rcases List.mem_append.1 hc with hdigit | hletter
  · have hrange : 48 ≤ c.toNat ∧ c.toNat ≤ 57 :=
      Char.isDigit_iff_toNat.1 (Nat.isDigit_of_mem_toDigits (by decide) (by decide) hdigit)
    omega
  · obtain rfl := List.mem_singleton.1 hletter
    cases u <;> decide

end SpanIntake.Grpc

/-
**Runs of decimal digits.**

A run of digits ends where no digit follows, so that a reader which takes as many digits as there
are takes a number that stands there, and no more.

Main definitions:

* `Decimal.NoDigit` — no digit stands at the head of a text.

Main results:

* `Decimal.takeWhile_digits`, `Decimal.dropWhile_digits` — digits are parted from what follows;
* `Decimal.head?_toDigits` — a number is written without a zero in front.
-/

set_option relaxedAutoImplicit false
set_option autoImplicit false

namespace SpanIntake.Decimal

/-- No digit stands at the head of a text. -/
def NoDigit (cs : List Char) : Prop := ∀ c, cs.head? = some c → c.isDigit = false

theorem NoDigit.nil : NoDigit [] := nofun

theorem NoDigit.cons {c : Char} (h : c.isDigit = false) (cs : List Char) : NoDigit (c :: cs) := by
  intro d hd
  cases hd
  exact h

theorem NoDigit.take {cs : List Char} (h : NoDigit cs) (n : Nat) : NoDigit (cs.take n) := by
  cases n with
  | zero => exact .nil
  | succ n =>
      cases cs with
      | nil => exact .nil
      | cons c cs => exact .cons (h c rfl) _

theorem NoDigit.span {cs : List Char} (h : NoDigit cs) :
    cs.takeWhile Char.isDigit = [] ∧ cs.dropWhile Char.isDigit = cs := by
  cases cs with
  | nil => exact ⟨rfl, rfl⟩
  | cons c cs =>
      have hc : ¬ c.isDigit = true := Bool.eq_false_iff.1 (h c rfl)
      exact ⟨List.takeWhile_cons_of_neg hc, List.dropWhile_cons_of_neg hc⟩

variable {ds rest : List Char}

theorem takeWhile_digits (hds : ∀ c ∈ ds, c.isDigit = true) (hrest : NoDigit rest) :
    (ds ++ rest).takeWhile Char.isDigit = ds := by
  rw [List.takeWhile_append_of_pos hds, hrest.span.1, List.append_nil]

theorem dropWhile_digits (hds : ∀ c ∈ ds, c.isDigit = true) (hrest : NoDigit rest) :
    (ds ++ rest).dropWhile Char.isDigit = rest := by
  rw [List.dropWhile_append_of_pos hds, hrest.span.2]

/-- **A number is written without a zero in front.** -/
theorem head?_toDigits {n : Nat} (hn : 0 < n) : (Nat.toDigits 10 n).head? ≠ some '0' := by
  induction n using Nat.strongRecOn with
  | _ n ih =>
      rcases Nat.lt_or_ge n 10 with hlt | hge
      · rw [Nat.toDigits_of_lt_base hlt, List.head?_cons, ne_eq, Option.some.injEq,
          Nat.digitChar_eq_zero]
        omega
      · rw [Nat.toDigits_of_base_le (by decide) hge,
          List.head?_append]
        have hhead := ih (n / 10) (by omega) (by omega)
        cases htop : (Nat.toDigits 10 (n / 10)).head? with
        | none => exact absurd (List.head?_eq_none_iff.1 htop) Nat.toDigits_ne_nil
        | some c => rwa [htop] at hhead

end SpanIntake.Decimal

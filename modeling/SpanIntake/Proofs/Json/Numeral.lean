/-
**Numerals are read back.**

A numeral goes on as long as digits, a point or an exponent follow.  So what was written is read
back where nothing of the kind follows, if its digits follow the grammar: no zero in front of other
digits, and digits behind the mark of an exponent.

Main definitions:

* `Json.NumberText.WellFormed` — the digits of a numeral follow the grammar;
* `Json.Ends` — a text begins with nothing that a numeral could go on with.

Main results:

* `Json.numeral?_chars` — **a well-formed numeral is read back**;
* `Json.wellFormed_toDigits` — the numeral of an integer is well-formed.
-/

import SpanIntake.Json.Number
import SpanIntake.Json.Reader
import SpanIntake.Proofs.Decimal.Digits

set_option relaxedAutoImplicit false
set_option autoImplicit false

namespace SpanIntake.Json

open Decimal

/-- The digits of a numeral follow the grammar. -/
structure NumberText.WellFormed (n : NumberText) : Prop where
  /-- There are digits before the point. -/
  whole_ne_nil : n.whole ≠ []
  /-- They are digits. -/
  whole : ∀ c ∈ n.whole, c.isDigit = true
  /-- They do not begin with a zero, unless it stands alone. -/
  leading : n.whole.head? = some '0' → n.whole = ['0']
  /-- Behind the point there are digits only. -/
  fraction : ∀ c ∈ n.fraction, c.isDigit = true
  /-- An exponent has a sign or none, and digits. -/
  power : ∀ p, n.power = some p → (p.1 = none ∨ p.1 = some '+' ∨ p.1 = some '-') ∧ p.2 ≠ [] ∧
    ∀ c ∈ p.2, c.isDigit = true

/-- A text begins with nothing that a numeral could go on with. -/
structure Ends (rest : List Char) : Prop where
  /-- It begins with no digit. -/
  noDigit : NoDigit rest
  /-- It begins with no point. -/
  noPoint : rest.head? ≠ some '.'
  /-- It begins with no exponent. -/
  noPower : ∀ c, rest.head? = some c → c ≠ 'e' ∧ c ≠ 'E'

theorem Ends.nil : Ends [] := ⟨.nil, nofun, nofun⟩

theorem Ends.cons {c : Char} (h : c.isDigit = false ∧ c ≠ '.' ∧ c ≠ 'e' ∧ c ≠ 'E')
    (cs : List Char) : Ends (c :: cs) := by
  obtain ⟨hdigit, hpoint, he, hE⟩ := h
  refine ⟨.cons hdigit cs, fun hc => hpoint (Option.some.inj hc), fun d hd => ?_⟩
  cases hd
  exact ⟨he, hE⟩

/-! ### Parts of a numeral -/

/-- The point with its digits. -/
def NumberText.fractionChars (n : NumberText) : List Char :=
  if n.fraction.isEmpty then [] else '.' :: n.fraction

/-- The exponent with its mark. -/
def NumberText.powerChars (n : NumberText) : List Char :=
  match n.power with
  | none => []
  | some (sign, digits) => 'e' :: (sign.toList ++ digits)

theorem NumberText.chars_eq (n : NumberText) :
    n.chars =
      (if n.negative then ['-'] else []) ++ (n.whole ++ (n.fractionChars ++ n.powerChars)) := by
  obtain ⟨negative, whole, fraction, power⟩ := n
  cases power <;> simp only [chars, fractionChars, powerChars, List.append_assoc]

variable {ds rest : List Char} {n : NumberText}

theorem spanDigits_digits (hds : ∀ c ∈ ds, c.isDigit = true) (hrest : NoDigit rest) :
    spanDigits (ds ++ rest) = (ds, rest) := by
  rw [spanDigits, takeWhile_digits hds hrest, dropWhile_digits hds hrest]

theorem whole?_chars (h : n.WellFormed) (hrest : NoDigit rest) :
    whole? (n.whole ++ rest) = some (n.whole, rest) := by
  rw [whole?, spanDigits_digits h.whole hrest]
  cases hwhole : n.whole with
  | nil => exact absurd hwhole h.whole_ne_nil
  | cons c ds =>
      have hleading := h.leading
      rw [hwhole] at hleading
      split
      case h_1 heq => cases heq
      case h_2 heq =>
        cases heq
        cases hleading rfl
      case h_3 => rfl

theorem fraction?_chars (h : n.WellFormed) (hrest : NoDigit rest)
    (hpoint : rest.head? ≠ some '.') :
    fraction? (n.fractionChars ++ rest) = some (n.fraction, rest) := by
  rw [NumberText.fractionChars]
  cases hfraction : n.fraction with
  | nil =>
      rw [List.isEmpty_nil, if_pos rfl, List.nil_append, fraction?]
      rintro cs rfl
      exact hpoint rfl
  | cons c ds =>
      have hdigits := h.fraction
      rw [hfraction] at hdigits
      have hspan := spanDigits_digits hdigits hrest
      rw [List.cons_append] at hspan
      simp only [List.isEmpty_cons, Bool.false_eq_true, if_false, List.cons_append, fraction?, hspan]

theorem powerDigits?_digits (sign : Option Char) (hne : ds ≠ [])
    (hds : ∀ c ∈ ds, c.isDigit = true) (hrest : NoDigit rest) :
    powerDigits? sign (ds ++ rest) = some (some (sign, ds), rest) := by
  rw [powerDigits?, spanDigits_digits hds hrest]
  cases ds with
  | nil => exact absurd rfl hne
  | cons c ds => rfl

theorem power?_digit {c : Char} (h : c.isDigit = true) (cs : List Char) :
    power? ('e' :: c :: cs) = powerDigits? none (c :: cs) := by
  have hplus : c ≠ '+' := by rintro rfl; exact absurd h (by decide)
  have hminus : c ≠ '-' := by rintro rfl; exact absurd h (by decide)
  rw [power?, if_pos (.inl rfl)]
  · rintro more heq
    exact hplus (List.cons.inj heq).1
  · rintro more heq
    exact hminus (List.cons.inj heq).1

theorem power?_chars (h : n.WellFormed) (hrest : Ends rest) :
    power? (n.powerChars ++ rest) = some (n.power, rest) := by
  rw [NumberText.powerChars]
  cases hpower : n.power with
  | none =>
      cases rest with
      | nil => rfl
      | cons c rest =>
          obtain ⟨he, hE⟩ := hrest.noPower c rfl
          exact if_neg fun hc => hc.elim he hE
  | some p =>
      obtain ⟨sign, digits⟩ := p
      obtain ⟨hsign, hne, hdigits⟩ := h.power _ hpower
      dsimp only at hsign hne hdigits ⊢
      have hread := powerDigits?_digits sign hne hdigits hrest.noDigit
      rcases hsign with rfl | rfl | rfl
      · cases digits with
        | nil => exact absurd rfl hne
        | cons c ds => exact (power?_digit (hdigits c List.mem_cons_self) _).trans hread
      · exact hread
      · exact hread

/-! ### Numerals -/

theorem unsigned?_chars (h : n.WellFormed) (hrest : Ends rest) :
    unsigned? n.negative (n.whole ++ (n.fractionChars ++ n.powerChars) ++ rest) =
      some (n, rest) := by
  -- what follows the digits of a part is a mark, or what follows the numeral
  have hpower : NoDigit (n.powerChars ++ rest) ∧ (n.powerChars ++ rest).head? ≠ some '.' := by
    rw [NumberText.powerChars]
    split
    · exact ⟨hrest.noDigit, hrest.noPoint⟩
    · exact ⟨.cons (by decide) _, by rw [List.cons_append, List.head?_cons]; decide⟩
  have hfraction : NoDigit (n.fractionChars ++ (n.powerChars ++ rest)) := by
    rw [NumberText.fractionChars]
    split
    · exact hpower.1
    · exact .cons (by decide) _
  simp only [unsigned?, List.append_assoc, whole?_chars h hfraction,
    fraction?_chars h hpower.1 hpower.2, power?_chars h hrest, Option.bind_eq_bind,
    Option.bind_some]
  rfl

/-- The digits before the point begin with one. -/
theorem NumberText.WellFormed.exists_whole_eq_cons (h : n.WellFormed) :
    ∃ c ds, n.whole = c :: ds ∧ c.isDigit = true := by
  cases hwhole : n.whole with
  | nil => exact absurd hwhole h.whole_ne_nil
  | cons c ds => exact ⟨c, ds, rfl, h.whole c (hwhole ▸ List.mem_cons_self)⟩

/-- A numeral begins with a digit, or with a minus sign. -/
theorem NumberText.WellFormed.exists_chars_eq_cons (h : n.WellFormed) :
    ∃ c cs, n.chars = c :: cs ∧ (c = '-' ∨ c.isDigit = true) := by
  obtain ⟨c, ds, hwhole, hc⟩ := h.exists_whole_eq_cons
  rw [n.chars_eq, hwhole]
  cases n.negative with
  | true => exact ⟨'-', _, rfl, .inl rfl⟩
  | false => exact ⟨c, _, rfl, .inr hc⟩

theorem numeral?_digit {c : Char} (h : c.isDigit = true) (cs : List Char) :
    numeral? (c :: cs) = unsigned? false (c :: cs) := by
  rw [numeral?]
  rintro more heq
  rw [(List.cons.inj heq).1] at h
  exact absurd h (by decide)

/-- **A well-formed numeral is read back.** -/
theorem numeral?_chars (h : n.WellFormed) (hrest : Ends rest) :
    numeral? (n.chars ++ rest) = some (n, rest) := by
  have hread := unsigned?_chars h hrest
  rw [n.chars_eq]
  cases hnegative : n.negative with
  | true =>
      rw [hnegative] at hread
      exact hread
  | false =>
      obtain ⟨c, ds, hwhole, hc⟩ := h.exists_whole_eq_cons
      rw [hnegative, hwhole] at hread
      rw [hwhole]
      exact (numeral?_digit hc _).trans hread

/-! ### Integers -/

theorem digitsValue_toDigits (n : Nat) : digitsValue (Nat.toDigits 10 n) = n :=
  Nat.ofDigitChars_toDigits (by decide) (by decide)

/-- The numeral of an integer. -/
theorem wellFormed_toDigits (negative : Bool) (m : Nat) :
    NumberText.WellFormed ⟨negative, Nat.toDigits 10 m, [], none⟩ where
  whole_ne_nil := Nat.toDigits_ne_nil
  whole _ hc := Nat.isDigit_of_mem_toDigits (by decide) (by decide) hc
  leading := by
    intro hzero
    rcases Nat.eq_zero_or_pos m with rfl | hpos
    · rfl
    · exact absurd hzero (head?_toDigits hpos)
  fraction := nofun
  power := nofun

end SpanIntake.Json

/-
**Trimming around a character that is no blank.**

Trimming takes blanks away at both ends of a text and stops at the first character that is none.  So
around such a character the two ends are trimmed each on its own, whatever stands between.

Main definitions:

* `Blank.AllBlank` — nothing but blanks.

Main results:

* `Blank.trimChars_append_cons` — the two sides of a character that is no blank;
* `Blank.trimChars_eq_nil_iff` — nothing is left of blanks only;
* `Blank.trimChars_dropBlanks`, `Blank.trimChars_rdropWhile` — trimming one end before both.
-/

import Mathlib.Data.List.DropRight
import Mathlib.Data.List.TakeWhile
import SpanIntake.Text.Blank

set_option relaxedAutoImplicit false
set_option autoImplicit false

namespace SpanIntake.Blank

variable {c : Char} {cs : List Char}

/-- There is nothing but blanks. -/
def AllBlank (cs : List Char) : Prop := ∀ c ∈ cs, isBlank c = true

instance (cs : List Char) : Decidable (AllBlank cs) :=
  inferInstanceAs (Decidable (∀ c ∈ cs, isBlank c = true))

theorem trimChars_eq (cs : List Char) : trimChars cs = (dropBlanks cs).rdropWhile isBlank := rfl

/-! ### Around a character that is no blank -/

theorem dropBlanks_append_cons (hc : isBlank c = false) (as bs : List Char) :
    dropBlanks (as ++ c :: bs) = dropBlanks as ++ c :: bs := by
  induction as with
  | nil => simp [dropBlanks, hc]
  | cons a as ih =>
      rw [List.cons_append, dropBlanks, dropBlanks, List.dropWhile_cons, List.dropWhile_cons]
      split
      · exact ih
      · rfl

theorem rdropWhile_append_cons (hc : isBlank c = false) (as bs : List Char) :
    (as ++ c :: bs).rdropWhile isBlank = as ++ c :: bs.rdropWhile isBlank := by
  have hreverse : (as ++ c :: bs).reverse = bs.reverse ++ c :: as.reverse := by simp
  have hdrop : (bs.reverse ++ c :: as.reverse).dropWhile isBlank =
      bs.reverse.dropWhile isBlank ++ c :: as.reverse := dropBlanks_append_cons hc _ _
  rw [List.rdropWhile, hreverse, hdrop, List.rdropWhile]
  simp

/-- **Around a character that is no blank each end is trimmed on its own.** -/
theorem trimChars_append_cons (hc : isBlank c = false) (as bs : List Char) :
    trimChars (as ++ c :: bs) = dropBlanks as ++ c :: bs.rdropWhile isBlank := by
  rw [trimChars_eq, dropBlanks_append_cons hc, rdropWhile_append_cons hc]

/-! ### Blanks only -/

theorem exists_of_not_allBlank (h : ¬ AllBlank cs) :
    ∃ as c bs, cs = as ++ c :: bs ∧ isBlank c = false := by
  simp only [AllBlank, not_forall, Bool.not_eq_true] at h
  obtain ⟨c, hmem, hc⟩ := h
  obtain ⟨as, bs, hcs⟩ := List.append_of_mem hmem
  exact ⟨as, c, bs, hcs, hc⟩

theorem trimChars_eq_nil_iff : trimChars cs = [] ↔ AllBlank cs := by
  constructor
  · intro hnil
    by_contra h
    obtain ⟨as, c, bs, rfl, hc⟩ := exists_of_not_allBlank h
    rw [trimChars_append_cons hc] at hnil
    exact List.append_ne_nil_of_right_ne_nil _ (List.cons_ne_nil _ _) hnil
  · intro h
    rw [trimChars_eq, dropBlanks, List.dropWhile_eq_nil_iff.2 h, List.rdropWhile_nil]

/-! ### One end before both -/

theorem trimChars_dropBlanks (cs : List Char) : trimChars (dropBlanks cs) = trimChars cs := by
  rw [trimChars_eq, dropBlanks, dropBlanks, List.dropWhile_idempotent, trimChars_eq, dropBlanks]

theorem trimChars_rdropWhile (cs : List Char) :
    trimChars (cs.rdropWhile isBlank) = trimChars cs := by
  by_cases h : AllBlank cs
  · rw [List.rdropWhile_eq_nil_iff.2 h, trimChars_eq_nil_iff.2 h]
    rfl
  · obtain ⟨as, c, bs, rfl, hc⟩ := exists_of_not_allBlank h
    rw [rdropWhile_append_cons hc, trimChars_append_cons hc, trimChars_append_cons hc,
      List.rdropWhile_idempotent]

theorem isBlank_of_isDigit (h : c.isDigit = true) : isBlank c = false := by
  have hrange : 48 ≤ c.toNat ∧ c.toNat ≤ 57 := Char.isDigit_iff_toNat.1 h
  simp only [isBlank, Bool.or_eq_false_iff, Bool.and_eq_false_iff, decide_eq_false_iff_not,
    beq_eq_false_iff_ne]
  omega

theorem mem_of_mem_trimChars (h : c ∈ trimChars cs) : c ∈ cs :=
  (List.dropWhile_sublist _).subset ((List.rdropWhile_prefix _ _).subset h)

end SpanIntake.Blank

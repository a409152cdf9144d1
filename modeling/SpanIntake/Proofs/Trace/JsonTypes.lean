/-
**Which values keep their type in JSON.**

A value is written without a mark of its type, and the reader takes the first type that fits.  A
truth value, an integer, a text and a byte string have shapes of their own and come back as they
were.  A finite double is written with a point or an exponent, so that it is taken for no integer,
and what the reader makes of its digits stays in the range of doubles.  But JSON has no numeral for
what is no number or infinite: that is written as `null`, which is a value of no type.

Main definitions:

* `AttributeValue.readBack` — what is read from the text of a value;
* `AttributeValue.KeepsType` — that is a value of the same type, and the same one if it is no
  double;
* `AttributeValue.isNonFinite` — the value is a double, but not finite.

Main results:

* `AttributeValue.readBack_of_finite` — a finite double is read back as a double;
* `AttributeValue.keepsType_iff` — **a value keeps its type exactly if it is no double that is not
  finite**;
* `AttributeValue.not_keepsType` — what is no number cannot be read back.
-/

import SpanIntake.Proofs.Json.DoubleNumeral
import SpanIntake.Proofs.Trace.JsonForm

set_option relaxedAutoImplicit false
set_option autoImplicit false

namespace SpanIntake.AttributeValue

/-- What is read from the text of a value. -/
def readBack (v : AttributeValue) : Option AttributeValue :=
  (Json.read? v.toJson.write).bind ofJson?

/-- Two values are of one type. -/
def SameType (v w : AttributeValue) : Prop := v.ctorIdx = w.ctorIdx

/-- A value of the same type is read back, and the same value if it is no double. -/
def KeepsType (v : AttributeValue) : Prop :=
  ∃ w, v.readBack = some w ∧ w.SameType v ∧ (v.isDouble = false → w = v)

/-- The value is a double, but no number or infinite. -/
def isNonFinite : AttributeValue → Bool
  | .double d =>
    match d.parts with
    | .finite _ _ _ => false
    | _ => true
  | _ => false

theorem readBack_eq {v : AttributeValue} (h : v.toJson.WellFormed) :
    v.readBack = ofJson? v.toJson := by
  rw [readBack, Json.read?_write h, Option.bind_some]

theorem keepsType_of_not_isDouble {v : AttributeValue} (h : v.isDouble = false) : v.KeepsType :=
  ⟨v, by rw [readBack_eq (wellFormed_toJson h), ofJson?_toJson h], rfl, fun _ => rfl⟩

/-- **A finite double is read back as a double.** -/
theorem readBack_of_finite {d : Double} {b : Bool} {m : Nat} {q : Int}
    (h : d.parts = .finite b m q) : ∃ d', (double d).readBack = some (.double d') := by
  obtain ⟨n, hn, hdouble⟩ := Json.NumberText.isDouble_of_finite h
  obtain ⟨d', hvalue⟩ := hdouble.value?
  have hjson : (double d).toJson = .number n := by
    rw [toJson, Json.ofDouble, hn]
  refine ⟨d', ?_⟩
  rw [readBack_eq (hjson ▸ .number hdouble.wellFormed), hjson]
  simp only [ofJson?, hvalue]

/-- **Other doubles are written as `null`**, of which no value is read. -/
theorem readBack_of_not_finite {d : Double} (h : Json.NumberText.ofDouble d = none) :
    (double d).readBack = none := by
  have hjson : (double d).toJson = .null := by
    rw [toJson, Json.ofDouble, h]
  rw [readBack_eq (hjson ▸ .null), hjson]
  rfl

theorem readBack_of_isNonFinite {v : AttributeValue} (h : v.isNonFinite = true) :
    v.readBack = none := by
  cases v with
  | double d =>
      refine readBack_of_not_finite ?_
      cases hparts : d.parts with
      | finite b m q =>
          rw [isNonFinite, hparts] at h
          cases h
      | nan | infinite _ => rw [Json.NumberText.ofDouble, hparts]
  | _ => cases h

theorem KeepsType.readBack_ne_none {v : AttributeValue} (h : v.KeepsType) : v.readBack ≠ none := by
  obtain ⟨w, hread, -, -⟩ := h
  rw [hread]
  exact Option.some_ne_none w

theorem keepsType_of_not_isNonFinite {v : AttributeValue} (h : v.isNonFinite = false) :
    v.KeepsType := by
  cases v with
  | double d =>
      cases hparts : d.parts with
      | finite b m q =>
          obtain ⟨d', hread⟩ := readBack_of_finite hparts
          exact ⟨.double d', hread, rfl, nofun⟩
      | nan | infinite _ =>
          rw [isNonFinite, hparts] at h
          cases h
  | _ => exact keepsType_of_not_isDouble rfl

/-- **A value keeps its type exactly if it is no double that is not finite**, and of such a double
nothing is read back. -/
theorem keepsType_iff (v : AttributeValue) :
    (v.KeepsType ↔ v.isNonFinite = false) ∧ (v.readBack = none ↔ v.isNonFinite = true) := by
  cases h : v.isNonFinite with
  | false =>
      have hkeeps := keepsType_of_not_isNonFinite h
      exact ⟨iff_of_true hkeeps rfl, iff_of_false hkeeps.readBack_ne_none nofun⟩
  | true =>
      have hnone := readBack_of_isNonFinite h
      exact ⟨iff_of_false (fun hkeeps => hkeeps.readBack_ne_none hnone) nofun,
        iff_of_true hnone rfl⟩

/-- The double that stands for no number. -/
def notANumber : AttributeValue := .double ⟨0x7FF8000000000000⟩

/-- **What is no number loses its type.** -/
theorem not_keepsType : ¬ ∀ v : AttributeValue, v.KeepsType := by
  intro h
  exact (h notANumber).readBack_ne_none (readBack_of_isNonFinite (by decide))

end SpanIntake.AttributeValue

/-
**The texts of values.**

A truth value, a number and a byte string are written with letters, digits and a few signs.  So
their texts hold no control character, and they are empty only for a byte string without bytes.
Nothing of the kind can be said of a value that is a text itself.

Main definitions:

* `AttributeValue.isText`, `AttributeValue.isDefault` — a text, and what a field that is left out
  has.

Main results:

* `Decimal.printable_positional`, `Base64.printable_encodeChars` — no control characters in decimals
  and in base64;
* `AttributeValue.printable_toText` — **nor in any value but a text**;
* `AttributeValue.toText_ne_empty` — **no value but a default has an empty text**.
-/

import SpanIntake.Proofs.Json.Reading
import SpanIntake.Trace.Attribute

set_option relaxedAutoImplicit false
set_option autoImplicit false

namespace SpanIntake

open Json (Printable)

/-! ### Numbers -/

theorem Json.printable_toDigits (n : Nat) : Printable (Nat.toDigits 10 n) :=
  printable_of_isDigit fun _ h => Nat.isDigit_of_mem_toDigits (by decide) (by decide) h

theorem Json.printable_toString (n : Int) : Printable (toString n).toList := by
  rw [Int.toString_eq_repr, Int.repr_eq_if]
  split
  · rw [Nat.toList_repr]
    exact printable_toDigits _
  · rw [String.toList_append, Nat.toList_repr]
    exact .append (by decide) (printable_toDigits _)

theorem Json.toString_ne_empty (n : Int) : toString n ≠ "" := by
  rw [Int.toString_eq_repr, Int.repr_eq_if]
  split
  · exact Nat.repr_ne_empty
  · rw [ne_eq, String.append_eq_empty_iff]
    exact fun h => Nat.repr_ne_empty h.2

namespace Decimal

theorem printable_replicate (n : Nat) : Printable (List.replicate n '0') := by
  intro c hc
  obtain rfl := List.eq_of_mem_replicate hc
  decide

theorem positional_ne_nil (d : Decimal) : d.positional ≠ [] := by
  have hchars : d.chars ≠ [] := Nat.toDigits_ne_nil
  unfold positional
  split
  · exact List.append_ne_nil_of_left_ne_nil hchars _
  · dsimp only
    split
    · exact List.cons_ne_nil _ _
    · exact List.append_ne_nil_of_right_ne_nil _ (List.cons_ne_nil _ _)

theorem printable_positional (d : Decimal) : Printable d.positional := by
  have hchars : Printable d.chars := Json.printable_toDigits d.digits
  unfold positional
  split
  · exact hchars.append (printable_replicate _)
  · dsimp only
    split
    · exact .cons (by decide) (.cons (by decide) ((printable_replicate _).append hchars))
    · exact .append (fun c hc => hchars c (List.mem_of_mem_take hc))
        (.cons (by decide) fun c hc => hchars c (List.mem_of_mem_drop hc))

end Decimal

namespace Double

/-- The digits of a finite double without its sign. -/
def bodyChars (m : Nat) (q : Int) : List Char :=
  if m = 0 then ['0'] else (Decimal.shortest .up m q).positional

theorem toText_of_finite {d : Double} {negative : Bool} {m : Nat} {q : Int}
    (h : d.parts = .finite negative m q) :
    d.toText = String.ofList (if negative then '-' :: bodyChars m q else bodyChars m q) := by
  rw [toText, h]
  rfl

theorem bodyChars_ne_nil (m : Nat) (q : Int) : bodyChars m q ≠ [] := by
  rw [bodyChars]
  split
  · exact List.cons_ne_nil _ _
  · exact Decimal.positional_ne_nil _

theorem printable_bodyChars (m : Nat) (q : Int) : Printable (bodyChars m q) := by
  rw [bodyChars]
  split
  · decide
  · exact Decimal.printable_positional _

theorem toText_ne_empty (d : Double) : d.toText ≠ "" := by
  cases hparts : d.parts with
  | nan => rw [toText, hparts]; decide
  | infinite negative => rw [toText, hparts]; cases negative <;> decide
  | finite negative m q =>
      rw [toText_of_finite hparts, ne_eq, String.ofList_eq_empty_iff]
      split
      · exact List.cons_ne_nil _ _
      · exact bodyChars_ne_nil m q

theorem printable_toText (d : Double) : Printable d.toText.toList := by
  cases hparts : d.parts with
  | nan => rw [toText, hparts]; decide
  | infinite negative => rw [toText, hparts]; cases negative <;> decide
  | finite negative m q =>
      rw [toText_of_finite hparts, String.toList_ofList]
      split
      · exact .cons (by decide) (printable_bodyChars m q)
      · exact printable_bodyChars m q

end Double

/-! ### Byte strings -/

namespace Base64

theorem printable_symbol {n : Nat} (h : n < 64) : 32 ≤ (symbol n).toNat := by
  have hall : ∀ k : Fin 64, 32 ≤ (symbol k.val).toNat := by decide
  exact hall ⟨n, h⟩

theorem printable_encodeChars (bs : Bytes) : Printable (encodeChars bs) := by
  have hsymbol : ∀ k, 32 ≤ (symbol (k % 64)).toNat := fun k =>
    printable_symbol (Nat.mod_lt k (by decide))
  fun_induction encodeChars bs with
  | case1 => exact .nil
  | case2 a n =>
      have ha := a.toNat_lt
      exact .cons (printable_symbol (by omega)) (.cons (hsymbol _) (by decide))
  | case3 a b n =>
      have ha := a.toNat_lt
      have hb := b.toNat_lt
      exact .cons (printable_symbol (by omega)) (.cons (hsymbol _) (.cons (hsymbol _) (by decide)))
  | case4 a b c rest n ih =>
      have ha := a.toNat_lt
      have hb := b.toNat_lt
      have hc := c.toNat_lt
      exact .cons (printable_symbol (by omega)) (.cons (hsymbol _) (.cons (hsymbol _)
        (.cons (hsymbol _) ih)))

theorem encodeChars_ne_nil {bs : Bytes} (h : bs ≠ []) : encodeChars bs ≠ [] := by
  fun_cases encodeChars bs with
  | case1 => exact absurd rfl h
  | case2 | case3 | case4 => exact List.cons_ne_nil _ _

end Base64

/-! ### Values -/

namespace AttributeValue

/-- Whether the value is a text. -/
def isText : AttributeValue → Bool
  | .text _ => true
  | _ => false

/-- Whether the value is what a field that is left out has; both zeros are. -/
def isDefault : AttributeValue → Bool
  | .bool b => !b
  | .int n => n == 0
  | .double d => d.isZero
  | .text s => s.isEmpty
  | .bytes bs => bs.isEmpty

/-- **The text of a value that is no text itself holds no control character.** -/
theorem printable_toText {v : AttributeValue} (h : v.isText = false) :
    Printable v.toText.toList := by
  cases v with
  | bool b => cases b <;> decide
  | int n => exact Json.printable_toString n.toInt
  | double d => exact d.printable_toText
  | text s => cases h
  | bytes bs =>
      rw [toText, Base64.encode, String.toList_ofList]
      exact Base64.printable_encodeChars bs

/-- **No value but a default has an empty text.** -/
theorem toText_ne_empty {v : AttributeValue} (h : v.isDefault = false) : v.toText ≠ "" := by
  cases v with
  | bool b => cases b <;> decide
  | int n => exact Json.toString_ne_empty n.toInt
  | double d => exact d.toText_ne_empty
  | text s => exact fun hs => Bool.eq_false_iff.1 h (String.isEmpty_iff.2 hs)
  | bytes bs =>
      rw [toText, Base64.encode, ne_eq, String.ofList_eq_empty_iff]
      exact Base64.encodeChars_ne_nil fun hbs => Bool.eq_false_iff.1 h (List.isEmpty_iff.2 hbs)

end AttributeValue

end SpanIntake

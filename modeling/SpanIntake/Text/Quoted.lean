/-
**Quoted text.**

A text between quotes on one line: quotes, backslashes and the usual controls have short escapes,
and every other character that would not show by itself is written by its number.

Main definitions

* `Quoted.quote` — a text with its quotes.

Main results

* `Quoted.forall_quoteChars` — a property of all characters that show, and of those of escapes, is
  one of all characters of a quoted text.
-/

import SpanIntake.Text.Printable

set_option relaxedAutoImplicit false
set_option autoImplicit false

namespace SpanIntake.Quoted

/-- A character by its number: `\\u` and the hexadecimal digits in braces. -/
def byNumber (c : Char) : List Char :=
  '\\' :: 'u' :: '{' :: (Nat.toDigits 16 c.toNat ++ ['}'])

/-- A character inside quotes. -/
def escapeChar (c : Char) : List Char :=
  if c.toNat = 0 then ['\\', '0']
  else if c = '\t' then ['\\', 't']
  else if c = '\r' then ['\\', 'r']
  else if c = '\n' then ['\\', 'n']
  else if c = '"' then ['\\', '"']
  else if c = '\\' then ['\\', '\\']
  else if Printable.isExtender c || !Printable.isPrintable c then byNumber c
  else [c]

/-- The characters of a quoted text. -/
def quoteChars (s : String) : List Char := '"' :: (s.toList.flatMap escapeChar ++ ['"'])

/-- A text between quotes. -/
def quote (s : String) : String := String.ofList (quoteChars s)

theorem forall_quoteChars {P : Char → Prop} (s : String) (hq : P '"')
    (hc : ∀ c, ∀ d ∈ escapeChar c, P d) : ∀ d ∈ quoteChars s, P d := by
  intro d hd
  simp only [quoteChars, List.mem_cons, List.mem_append, List.mem_flatMap, List.not_mem_nil,
    or_false] at hd
  rcases hd with rfl | ⟨c, _, hd⟩ | rfl
  · exact hq
  · exact hc c d hd
  · exact hq

end SpanIntake.Quoted

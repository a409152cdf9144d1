/-
**Pieces of a text.**

Separators cut a text into pieces, one more than there are separators.

Main definitions

* `pieces` — the pieces between separators.

Main results

* `pieces_append_cons` — a text is cut at each separator on its own.
-/

set_option relaxedAutoImplicit false
set_option autoImplicit false

namespace SpanIntake

/-- The pieces between the characters that separate. -/
def pieces (separates : Char → Bool) : List Char → List (List Char)
  | [] => [[]]
  | c :: cs =>
    if separates c then [] :: pieces separates cs
    else
      match pieces separates cs with
      | [] => [[c]]
      | p :: ps => (c :: p) :: ps

theorem pieces_ne_nil (separates : Char → Bool) (cs : List Char) : pieces separates cs ≠ [] := by
  cases cs with
  | nil => simp [pieces]
  | cons c cs =>
    by_cases h : separates c
    · simp [pieces, h]
    · cases hp : pieces separates cs <;> simp [pieces, h, hp]

theorem pieces_append_cons (separates : Char → Bool) {c : Char} (hc : separates c = true)
    (as bs : List Char) :
    pieces separates (as ++ c :: bs) = pieces separates as ++ pieces separates bs := by
  induction as with
  | nil => simp [pieces, hc]
  | cons a as ih =>
    rw [List.cons_append]
    by_cases h : separates a
    · simp [pieces, h, ih]
    · obtain ⟨p, ps, hp⟩ := List.exists_cons_of_ne_nil (pieces_ne_nil separates as)
      simp [pieces, h, ih, hp]

end SpanIntake

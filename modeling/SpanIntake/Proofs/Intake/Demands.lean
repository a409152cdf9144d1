/-
**Rows of checks and what they demand.**

A reader that makes its checks one after the other fails with the error of the first one that is not
passed.  What it checks can be said without the reader: as a list of demands on the input, each with
the error of an input that does not meet it.  The reader is judged by that list if it succeeds
exactly where all demands are met, and fails with the error of the first that is not.  Readers
behind one another are judged by their demands behind one another, so that a long row of checks is
settled check by check.

Main definitions:

* `Demand` — a condition with the error of what does not meet it;
* `firstUnmet?` — the error of the first demand that is not met;
* `Judged` — a result is what a list of demands makes of it.

Main results:

* `Judged.bind`, `Judged.mapM` — checks behind one another, and checks of all items of a list;
* `Judged.isOk_iff`, `Judged.eq_error_iff` — **when a judged reader succeeds, and how it fails**.
-/

set_option relaxedAutoImplicit false
set_option autoImplicit false

namespace SpanIntake

/-- A condition with the error of what does not meet it. -/
structure Demand (ε : Type) where
  /-- What is demanded. -/
  Met : Prop
  [decidable : Decidable Met]
  /-- What is said where it is not met. -/
  error : ε

attribute [instance] Demand.decidable

variable {α β ε : Type} {ds es : List (Demand ε)}

/-! ### The first demand that is not met -/

/-- The error of the first demand that is not met. -/
def firstUnmet? : List (Demand ε) → Option ε
  | [] => none
  | d :: ds => if d.Met then firstUnmet? ds else some d.error

theorem firstUnmet?_cons_of_met {d : Demand ε} (h : d.Met) :
    firstUnmet? (d :: ds) = firstUnmet? ds := if_pos h

theorem firstUnmet?_cons_of_unmet {d : Demand ε} (h : ¬ d.Met) :
    firstUnmet? (d :: ds) = some d.error := if_neg h

theorem firstUnmet?_append (ds es : List (Demand ε)) :
    firstUnmet? (ds ++ es) = (firstUnmet? ds).or (firstUnmet? es) := by
  induction ds with
  | nil => rfl
  | cons d ds ih =>
      rw [List.cons_append]
      by_cases h : d.Met
      · rw [firstUnmet?_cons_of_met h, firstUnmet?_cons_of_met h, ih]
      · rw [firstUnmet?_cons_of_unmet h, firstUnmet?_cons_of_unmet h, Option.some_or]

theorem firstUnmet?_eq_none_iff : firstUnmet? ds = none ↔ ∀ d ∈ ds, d.Met := by
  induction ds with
  | nil => simp [firstUnmet?]
  | cons d ds ih =>
      rw [List.forall_mem_cons, ← ih]
      by_cases h : d.Met
      · rw [firstUnmet?_cons_of_met h, and_iff_right h]
      · rw [firstUnmet?_cons_of_unmet h]
        constructor
        · intro hsome
          cases hsome
        · rintro ⟨hd, _⟩
          exact absurd hd h

theorem exists_of_firstUnmet?_eq_some {e : ε} (h : firstUnmet? ds = some e) :
    ∃ d ∈ ds, ¬ d.Met ∧ d.error = e := by
  induction ds with
  | nil => cases h
  | cons d ds ih =>
      by_cases hd : d.Met
      · rw [firstUnmet?_cons_of_met hd] at h
        obtain ⟨d', hmem, hd'⟩ := ih h
        exact ⟨d', List.mem_cons_of_mem d hmem, hd'⟩
      · rw [firstUnmet?_cons_of_unmet hd] at h
        exact ⟨d, List.mem_cons_self, hd, Option.some.inj h⟩

/-- A demand may be said in another way. -/
theorem firstUnmet?_singleton_congr {p q : Prop} [Decidable p] [Decidable q] (h : p ↔ q) (e : ε) :
    firstUnmet? [⟨p, e⟩] = firstUnmet? [⟨q, e⟩] := by
  simp only [firstUnmet?, h]

/-! ### Judged results -/

/-- A result is what a list of demands makes of it: a value where all are met, and otherwise the
error of the first that is not. -/
def Judged : Except ε α → List (Demand ε) → Prop
  | .ok _, ds => firstUnmet? ds = none
  | .error e, ds => firstUnmet? ds = some e

theorem Judged.congr {x : Except ε α} (h : Judged x ds) (heq : firstUnmet? ds = firstUnmet? es) :
    Judged x es := by
  cases x with
  | ok a => exact heq.symm.trans h
  | error e => exact heq.symm.trans h

theorem judged_ok (a : α) : Judged (.ok a : Except ε α) [] := rfl

theorem judged_error {d : Demand ε} (h : ¬ d.Met) :
    Judged (.error d.error : Except ε α) (d :: ds) := firstUnmet?_cons_of_unmet h

/-- A demand that is met may stand in front. -/
theorem Judged.cons {x : Except ε α} {d : Demand ε} (hx : Judged x ds) (h : d.Met) :
    Judged x (d :: ds) := hx.congr (firstUnmet?_cons_of_met h).symm

/-- A check of one demand. -/
theorem judged_singleton {x : Except ε α} {d : Demand ε} (hmet : d.Met → ∃ a, x = .ok a)
    (hunmet : ¬ d.Met → x = .error d.error) : Judged x [d] := by
  by_cases h : d.Met
  · obtain ⟨a, rfl⟩ := hmet h
    exact (judged_ok a).cons h
  · rw [hunmet h]
    exact judged_error h

/-- **Checks behind one another have their demands behind one another.** -/
theorem Judged.bind {x : Except ε α} {f : α → Except ε β} (hx : Judged x ds)
    (hf : ∀ a, x = .ok a → Judged (f a) es) : Judged (x >>= f) (ds ++ es) := by
  cases x with
  | error e =>
      have hfirst : firstUnmet? ds = some e := hx
      show firstUnmet? (ds ++ es) = some e
      rw [firstUnmet?_append, hfirst, Option.some_or]
  | ok a =>
      have hnone : firstUnmet? ds = none := hx
      refine (hf a rfl).congr ?_
      rw [firstUnmet?_append, hnone, Option.none_or]

/-- What cannot fail demands nothing. -/
theorem Judged.bind_ok {x : Except ε α} {f : α → Except ε β} (hx : Judged x ds)
    (hf : ∀ a, ∃ b, f a = .ok b) : Judged (x >>= f) ds := by
  rw [← List.append_nil ds]
  refine hx.bind fun a _ => ?_
  obtain ⟨b, hb⟩ := hf a
  rw [hb]
  exact judged_ok b

/-- **All items of a list are checked, each before the next.** -/
theorem Judged.mapM {f : α → Except ε β} {demands : α → List (Demand ε)}
    (h : ∀ x, Judged (f x) (demands x)) (xs : List α) :
    Judged (xs.mapM f) (xs.flatMap demands) := by
  induction xs with
  | nil => exact judged_ok []
  | cons x xs ih =>
      rw [List.mapM_cons, List.flatMap_cons]
      refine (h x).bind fun y _ => ?_
      exact ih.bind_ok fun ys => ⟨y :: ys, rfl⟩

/-! ### Success and failure -/

/-- **A judged reader succeeds exactly where all demands are met.** -/
theorem Judged.isOk_iff {x : Except ε α} (h : Judged x ds) :
    (∃ a, x = .ok a) ↔ ∀ d ∈ ds, d.Met := by
  rw [← firstUnmet?_eq_none_iff]
  cases x with
  | ok a => exact ⟨fun _ => h, fun _ => ⟨a, rfl⟩⟩
  | error e =>
      have hfirst : firstUnmet? ds = some e := h
      rw [hfirst]
      constructor
      · rintro ⟨a, ha⟩
        cases ha
      · intro hnone
        cases hnone

/-- **A judged reader fails with the error of the first demand that is not met.** -/
theorem Judged.eq_error_iff {x : Except ε α} (h : Judged x ds) {e : ε} :
    x = .error e ↔ firstUnmet? ds = some e := by
  cases x with
  | ok a =>
      have hnone : firstUnmet? ds = none := h
      rw [hnone]
      constructor
      · intro herror
        cases herror
      · intro hsome
        cases hsome
  | error e' =>
      have hfirst : firstUnmet? ds = some e' := h
      rw [hfirst]
      exact ⟨fun heq => congrArg some (Except.error.inj heq),
        fun heq => congrArg Except.error (Option.some.inj heq)⟩

end SpanIntake

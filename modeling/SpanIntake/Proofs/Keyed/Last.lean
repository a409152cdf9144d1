/-
**The last item of a key.**

Lists of items with keys are read so that a later item takes the place of an earlier one with the
same key.  What such a list says is the last item of every key, and this module says which changes
of a list leave that alone: moving items past others of a different key, and leaving out an item
that is followed by another one of its key.

Main definitions:

* `Keyed.last?` — the last item with a key;
* `Keyed.SameLast` — two lists with the same last item of every key;
* `Keyed.SameOrder` — two lists in which the items of any one key stand in the same order;
* `Keyed.LastCounts` — a function of the last items.

Main results:

* `Keyed.SameOrder.sameLast`, `Keyed.SameOrder.perm` — such lists have the same last items, and are
  permutations of one another;
* `Keyed.sameOrder_of_perm` — a permutation of items with different keys;
* `Keyed.sameLast_drop` — leaving out an item whose key occurs again;
* `Keyed.LastCounts.of_same` — such changes are all alike to a function of the last items.
-/

import Mathlib.Data.List.Basic

set_option relaxedAutoImplicit false
set_option autoImplicit false

namespace SpanIntake.Keyed

variable {α β κ : Type} [DecidableEq κ] {key : α → κ}

/-! ### Last items -/

/-- The last item with a key. -/
def last? (key : α → κ) (k : κ) (xs : List α) : Option α := xs.reverse.find? fun x => key x = k

theorem last?_append (k : κ) (xs ys : List α) :
    last? key k (xs ++ ys) = (last? key k ys).or (last? key k xs) := by
  rw [last?, List.reverse_append, List.find?_append]
  rfl

theorem last?_cons (k : κ) (x : α) (xs : List α) :
    last? key k (x :: xs) = (last? key k xs).or (if key x = k then some x else none) := by
  rw [← List.singleton_append, last?_append]
  by_cases hx : key x = k
  · simp [last?, hx]
  · simp [last?, hx]

theorem last?_eq_getLast? (k : κ) (xs : List α) :
    last? key k xs = (xs.filter fun x => key x = k).getLast? := by
  rw [last?, ← List.head?_filter, List.filter_reverse, List.head?_reverse]

/-- A key that occurs has a last item. -/
theorem last?_ne_none {xs : List α} {x : α} (h : x ∈ xs) : last? key (key x) xs ≠ none := by
  intro hnone
  have hnot := List.find?_eq_none.1 hnone x (List.mem_reverse.2 h)
  simp at hnot

theorem last?_map {f : α → β} {key' : β → κ} (h : ∀ x, key' (f x) = key x) (k : κ) (xs : List α) :
    last? key' k (xs.map f) = (last? key k xs).map f := by
  rw [last?, ← List.map_reverse, List.find?_map]
  simp only [Function.comp_def, h]
  rfl

/-! ### Lists that say the same -/

/-- Every key has the same last item in both lists. -/
def SameLast (key : α → κ) (xs ys : List α) : Prop := ∀ k, last? key k xs = last? key k ys

/-- The items of any one key stand in the same order in both lists. -/
def SameOrder (key : α → κ) (xs ys : List α) : Prop :=
  ∀ k, (xs.filter fun x => key x = k) = ys.filter fun x => key x = k

theorem SameLast.map {xs ys : List α} (h : SameLast key xs ys) {f : α → β} {key' : β → κ}
    (hf : ∀ x, key' (f x) = key x) : SameLast key' (xs.map f) (ys.map f) := by
  intro k
  rw [last?_map hf, last?_map hf, h k]

theorem SameOrder.sameLast {xs ys : List α} (h : SameOrder key xs ys) : SameLast key xs ys := by
  intro k
  rw [last?_eq_getLast?, last?_eq_getLast?, h k]

/-- Lists in which the items of any one key stand in the same order are permutations. -/
theorem SameOrder.perm {xs ys : List α} (h : SameOrder key xs ys) : xs.Perm ys := by
  classical
  refine List.perm_iff_count.2 fun x => ?_
  have hcount (zs : List α) : (zs.filter fun y => key y = key x).count x = zs.count x :=
    List.count_filter (by simp)
  rw [← hcount xs, h (key x), hcount ys]

/-- Neighbours with different keys may change places. -/
theorem sameOrder_swap {x y : α} (h : key x ≠ key y) (xs ys : List α) :
    SameOrder key (xs ++ x :: y :: ys) (xs ++ y :: x :: ys) := by
  intro k
  rw [List.filter_append, List.filter_append]
  by_cases hx : key x = k
  · have hy : key y ≠ k := fun hy => h (hx.trans hy.symm)
    simp [hx, hy]
  · simp [List.filter_cons, hx]

/-- Items with different keys may stand in any order. -/
theorem sameOrder_of_perm {xs ys : List α} (h : xs.Perm ys) (hxs : (xs.map key).Nodup) :
    SameOrder key xs ys := by
  intro k
  have hfilter := h.filter fun x => key x = k
  have hkeys : ((xs.filter fun x => key x = k).map key).Nodup :=
    List.filter_sublist.map key |>.nodup hxs
  have hkey : ∀ x ∈ xs.filter (fun x => key x = k), key x = k := by
    intro x hx
    simpa using (List.mem_filter.1 hx).2
  generalize xs.filter (fun x => key x = k) = one at hfilter hkeys hkey ⊢
  match one with
  | [] => exact (List.nil_perm.1 hfilter).symm
  | [x] => exact List.singleton_perm.1 hfilter
  | x :: y :: _ =>
      have hx := hkey x (by simp)
      have hy := hkey y (by simp)
      simp [hx, hy] at hkeys

/-- An item whose key occurs again may be left out. -/
theorem sameLast_drop {x y : α} {ys : List α} (hy : y ∈ ys) (hkey : key y = key x) (xs : List α) :
    SameLast key (xs ++ x :: ys) (xs ++ ys) := by
  intro k
  rw [last?_append, last?_append, last?_cons]
  by_cases hx : key x = k
  · have hsome : last? key k ys ≠ none := by
      rw [← hx, ← hkey]
      exact last?_ne_none hy
    obtain ⟨z, hz⟩ := Option.ne_none_iff_exists'.1 hsome
    rw [hz]
    rfl
  · rw [if_neg hx, Option.or_none]

/-! ### Functions of the last items -/

/-- What a function makes of items is decided by the last item of every key: no matter in what
order items with different keys stand, and whether others of a key stand in front of the last. -/
structure LastCounts (key : α → κ) (f : List α → β) : Prop where
  /-- Lists with the same last items have one value. -/
  same : ∀ xs ys, SameLast key xs ys → f xs = f ys
  /-- Items with different keys may stand in any order. -/
  perm : ∀ xs ys, xs.Perm ys → (xs.map key).Nodup → f xs = f ys
  /-- An item whose key occurs again may be left out. -/
  drop : ∀ xs x ys, (∃ y ∈ ys, key y = key x) → f (xs ++ x :: ys) = f (xs ++ ys)

theorem LastCounts.of_same {f : List α → β} (h : ∀ xs ys, SameLast key xs ys → f xs = f ys) :
    LastCounts key f := by
  constructor
  case same => exact h
  case perm =>
    intro xs ys hperm hxs
    exact h xs ys (sameOrder_of_perm hperm hxs).sameLast
  case drop =>
    rintro xs x ys ⟨y, hy, hkey⟩
    exact h _ _ (sameLast_drop hy hkey xs)

end SpanIntake.Keyed

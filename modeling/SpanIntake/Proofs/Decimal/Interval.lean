/-
**The shortest decimal lies among the numbers that round to the double.**

A grid hits if one of its two points beside the double lies in the interval of numbers that round
to it, and the first grid that hits gives the decimal.  So the decimal is positive, and it lies at
most half a unit above the double.  That holds of what is given after the last grid as well, which
is finer than a unit.

Main definitions:

* `Decimal.value` — the number of a decimal.

Main results:

* `Decimal.onGrid_eq` — a significand on a grid;
* `Decimal.gridHit?_bounds` — a hit is positive and lies below the upper end;
* `Decimal.firstHit_bounds` — so does the first hit;
* `Decimal.shortest_bounds` — **the shortest decimal is positive and at most half a unit above the
  double**.
-/

import Mathlib
import SpanIntake.Decimal.Shortest

set_option relaxedAutoImplicit false
set_option autoImplicit false

namespace SpanIntake.Decimal

/-- The number of a decimal. -/
def value (d : Decimal) : ℚ := d.digits * 10 ^ d.exponent

/-! ### Grids -/

theorem pow_toNat_div {b : ℚ} (hb : b ≠ 0) (k : Int) :
    b ^ k.toNat / b ^ (-k).toNat = b ^ k := by
  rw [← zpow_natCast, ← zpow_natCast, ← zpow_sub₀ hb, Int.toNat_sub_toNat_neg]

/-- Of each power, numerator and denominator have one part: the other has no factor. -/
theorem onGrid_eq (x : Nat) (q k : Int) :
    onGrid x q k =
      (x * (2 ^ (q - 2).toNat * 10 ^ (-k).toNat), 2 ^ (2 - q).toNat * 10 ^ k.toNat) := by
  have hnone : ∀ {i : Int}, i ≤ 0 → i.toNat = 0 := Int.toNat_of_nonpos
  rw [onGrid]
  by_cases hq : 2 ≤ q <;> by_cases hk : 0 ≤ k
  · simp [hq, hk, Nat.shiftLeft_eq, hnone (i := 2 - q) (by omega), hnone (i := -k) (by omega)]
  · simp [hq, hk, Nat.shiftLeft_eq, hnone (i := 2 - q) (by omega), hnone (i := k) (by omega),
      mul_assoc]
  · simp [hq, hk, Nat.shiftLeft_eq, hnone (i := q - 2) (by omega), hnone (i := -k) (by omega)]
  · simp [hq, hk, Nat.shiftLeft_eq, hnone (i := q - 2) (by omega), hnone (i := k) (by omega)]

theorem onGrid_pos (x : Nat) (q k : Int) : 0 < (onGrid x q k).2 := by
  rw [onGrid_eq]
  positivity

theorem onGrid_snd (x y : Nat) (q k : Int) : (onGrid x q k).2 = (onGrid y q k).2 := by
  rw [onGrid_eq, onGrid_eq]

theorem onGrid_mono {x y : Nat} (h : x ≤ y) (q k : Int) : (onGrid x q k).1 ≤ (onGrid y q k).1 := by
  rw [onGrid_eq, onGrid_eq]
  exact Nat.mul_le_mul_right _ h

theorem onGrid_fst_pos {x : Nat} (h : 0 < x) (q k : Int) : 0 < (onGrid x q k).1 := by
  rw [onGrid_eq]
  positivity

/-- **A significand on a grid**, in quarters of its unit. -/
theorem onGrid_div (x : Nat) (q k : Int) :
    ((onGrid x q k).1 : ℚ) / (onGrid x q k).2 = x * 2 ^ (q - 2) / 10 ^ k := by
  have htwo := pow_toNat_div two_ne_zero (q - 2)
  have hten := pow_toNat_div (b := 10) (by norm_num) k
  rw [neg_sub] at htwo
  rw [onGrid_eq, ← htwo, ← hten]
  push_cast
  field_simp

/-! ### Hits -/

variable {tie : TieRule} {m : Nat} {q k : Int}

/-- **A hit is positive and lies below the upper end.** -/
theorem gridHit?_bounds {digits : Nat} (hm : 0 < m) (h : gridHit? tie m q k = some digits) :
    0 < digits ∧ digits * (onGrid (4 * m + 2) q k).2 ≤ (onGrid (4 * m + 2) q k).1 := by
  have hlow : ∀ x, 0 < x → 0 < (onGrid x q k).1 := fun x hx => onGrid_fst_pos hx q k
  have hhigh := onGrid_mono (Nat.le_add_right (4 * m) 2) q k
  rw [onGrid_snd _ (4 * m)]
  rw [gridHit?] at h
  generalize hbelow : (if m = Double.hiddenBit ∧ Double.minExponent < q then 1 else 2) = below at h
  have hpos : 0 < 4 * m - below := by
    split at hbelow <;> omega
  have hlow := onGrid_fst_pos hpos q k
  generalize onGrid (4 * m) q k = grid at h hhigh ⊢
  generalize onGrid (4 * m - below) q k = gridLow at h hlow
  generalize onGrid (4 * m + 2) q k = gridHigh at h hhigh ⊢
  obtain ⟨value, unit⟩ := grid
  obtain ⟨low, _⟩ := gridLow
  obtain ⟨high, _⟩ := gridHigh
  dsimp only at h hlow hhigh ⊢
  have hdown : (low < value / unit * unit ∨ m % 2 = 0 ∧ low = value / unit * unit) →
      0 < value / unit ∧ value / unit * unit ≤ high := by
    intro hlower
    have hprod : 0 < value / unit * unit := by omega
    exact ⟨Nat.pos_of_mul_pos_right hprod, (Nat.div_mul_le_self value unit).trans hhigh⟩
  have hup : ((value / unit + 1) * unit < high ∨ m % 2 = 0 ∧ (value / unit + 1) * unit = high) →
      0 < value / unit + 1 ∧ (value / unit + 1) * unit ≤ high := fun hupper =>
    ⟨Nat.succ_pos _, by omega⟩
  split at h
  · rename_i hboth
    split at h
    · cases h
      exact hdown hboth.1
    split at h
    · cases h
      exact hup hboth.2
    split at h
    · cases h
      exact hup hboth.2
    · cases h
      split
      · exact hdown hboth.1
      · exact hup hboth.2
  split at h
  · rename_i hlower
    cases h
    exact hdown hlower
  split at h
  · rename_i hupper
    cases h
    exact hup hupper
  · cases h

/-- The numbers that round to `m · 2 ^ q` end half a unit above it. -/
theorem gridHit?_value_le {digits : Nat} (hm : 0 < m) (h : gridHit? tie m q k = some digits) :
    0 < digits ∧ (⟨digits, k⟩ : Decimal).value ≤ (m + 1 / 2) * 2 ^ q := by
  obtain ⟨hpos, hle⟩ := gridHit?_bounds hm h
  refine ⟨hpos, ?_⟩
  have hunit : (0 : ℚ) < (onGrid (4 * m + 2) q k).2 := by exact_mod_cast onGrid_pos _ q k
  have hten : (0 : ℚ) < 10 ^ k := by positivity
  have hgrid : (digits : ℚ) ≤ (onGrid (4 * m + 2) q k).1 / (onGrid (4 * m + 2) q k).2 := by
    rw [le_div_iff₀ hunit]
    exact_mod_cast hle
  rw [onGrid_div, le_div_iff₀ hten] at hgrid
  refine hgrid.trans (le_of_eq ?_)
  rw [zpow_sub₀ two_ne_zero]
  push_cast
  ring

/-! ### The first hit -/

/-- The first hit is positive and lies below the upper end, as long as what is given after the last
grid does. -/
theorem firstHit_bounds (hm : 0 < m) {more : Nat}
    (hlast : (⟨m, k - more⟩ : Decimal).value ≤ (m + 1 / 2) * 2 ^ q) :
    0 < (firstHit tie m q more k).digits ∧
      (firstHit tie m q more k).value ≤ (m + 1 / 2) * 2 ^ q := by
  induction more generalizing k with
  | zero =>
      rw [Nat.cast_zero, sub_zero] at hlast
      exact ⟨hm, hlast⟩
  | succ more ih =>
      rw [firstHit]
      split
      · rename_i digits hhit
        exact gridHit?_value_le hm hhit
      · refine ih ?_
        have hnext : k - 1 - more = k - (more + 1 : Nat) := by
          push_cast
          ring
        rwa [hnext]

theorem lt_ten_pow_width (n : Nat) : n < 10 ^ width n :=
  (Nat.length_toDigits_le_iff (by decide) Nat.length_toDigits_pos).1 le_rfl

theorem ten_pow_width_le {n : Nat} (h : 0 < n) : 10 ^ (width n - 1) ≤ n := by
  by_contra hlt
  rcases Nat.eq_zero_or_pos (width n - 1) with hone | hpos
  · rw [hone] at hlt
    omega
  · have hle := (Nat.length_toDigits_le_iff (b := 10) (by decide) hpos).2 (not_le.1 hlt)
    rw [width] at hle hpos
    omega

/-- **The shortest decimal is positive and at most half a unit above the double.** -/
theorem shortest_bounds (tie : TieRule) (q : Int) (hm : 0 < m) (hwidth : m ≤ 10 ^ 22) :
    0 < (shortest tie m q).digits ∧ (shortest tie m q).value ≤ (m + 1 / 2) * 2 ^ q := by
  have hgrid := onGrid_div (4 * m + 2) q 0
  have hhigh := onGrid_fst_pos (Nat.succ_pos (4 * m + 1)) q 0
  have hunit := onGrid_pos (4 * m + 2) q 0
  rw [shortest]
  generalize onGrid (4 * m + 2) q 0 = grid at hgrid hhigh hunit ⊢
  obtain ⟨high, unit⟩ := grid
  dsimp only at hgrid hhigh hunit ⊢
  refine firstHit_bounds hm ?_
  -- the last grid is finer than the first by more digits than the significand has
  have hunitQ : (0 : ℚ) < unit := by exact_mod_cast hunit
  have hleading : (10 : ℚ) ^ ((width high : Int) - 1) ≤ high := by
    have hlength : 0 < width high := Nat.length_toDigits_pos
    have hexponent : (width high : Int) - 1 = (width high - 1 : Nat) := by omega
    rw [hexponent, zpow_natCast]
    exact_mod_cast ten_pow_width_le hhigh
  have hbelow : (unit : ℚ) ≤ 10 ^ (width unit : Int) := by
    rw [zpow_natCast]
    exact_mod_cast (lt_ten_pow_width unit).le
  have hwidthQ : (m : ℚ) ≤ 10 ^ 22 := by exact_mod_cast hwidth
  have hexponent : (width high : Int) - width unit + 1 - (24 : Nat) =
      (width high - 1) + -width unit + -22 := by
    push_cast
    ring
  have hvalue : ((4 * m + 2 : Nat) : ℚ) * 2 ^ (q - 2) / 10 ^ (0 : Int) = (m + 1 / 2) * 2 ^ q := by
    rw [zpow_sub₀ two_ne_zero, zpow_zero]
    push_cast
    ring
  rw [← hvalue, ← hgrid, value, le_div_iff₀ hunitQ]
  dsimp only
  rw [hexponent, zpow_add₀ (by norm_num), zpow_add₀ (by norm_num)]
  calc (m : ℚ) * (10 ^ ((width high : Int) - 1) * 10 ^ (-(width unit : Int)) * 10 ^ (-22 : Int)) * unit
      ≤ 10 ^ 22 * (high * 10 ^ (-(width unit : Int)) * 10 ^ (-22 : Int)) *
          10 ^ (width unit : Int) := by gcongr
    _ = high := by
        rw [zpow_neg, zpow_neg]
        field_simp

end SpanIntake.Decimal

/-
**Rounded quotients.**

A quotient is divided by a power of two that leaves 53 bits before the point, and rounded there.  So
it grows by half a unit at most, which is one part in `2 ^ 53` unless it is very small, and it is
rounded to an infinity only if it lies half a unit beyond the greatest double.

Main definitions:

* `Double.exponent`, `Double.significand` — what a quotient is rounded to;
* `Double.packed` — the bits of both;
* `Double.limit` — the least number that is rounded to an infinity.

Main results:

* `Double.roundDiv_le` — rounding adds half a unit at most;
* `Double.exponent_bounds` — the exponent leaves 53 bits;
* `Double.parts_packed` — the bits of an exponent and a significand have their number;
* `Double.parts_ofRatio` — **a quotient below the limit is rounded to a finite double**, and it
  grows by one part in `2 ^ 53` at most;
* `Double.parts_mul` — a product below the limit is finite.
-/

import Mathlib
import SpanIntake.Decimal.Double

set_option relaxedAutoImplicit false
set_option autoImplicit false

namespace SpanIntake.Double

/-! ### Quotients -/

variable {num den : Nat}

theorem two_zpow_toNat {q : Int} (h : 0 ≤ q) : ((2 ^ q.toNat : Nat) : ℚ) = 2 ^ q := by
  obtain ⟨n, rfl⟩ := Int.eq_ofNat_of_zero_le h
  rw [Int.toNat_natCast, zpow_natCast, Nat.cast_pow, Nat.cast_ofNat]

theorem scaleRatio_pos (num : Nat) (hden : 0 < den) (q : Int) : 0 < (scaleRatio num den q).2 := by
  rw [scaleRatio]
  split
  · rw [Nat.shiftLeft_eq]
    positivity
  · exact hden

theorem scaleRatio_eq (num den : Nat) (q : Int) :
    ((scaleRatio num den q).1 : ℚ) / (scaleRatio num den q).2 = num / den / 2 ^ q := by
  rw [scaleRatio]
  split
  · rename_i hq
    rw [Nat.shiftLeft_eq, Nat.cast_mul, two_zpow_toNat hq, div_div]
  · rw [Nat.shiftLeft_eq, Nat.cast_mul, two_zpow_toNat (by omega), zpow_neg, div_div, mul_comm
      (den : ℚ), ← div_div, div_eq_mul_inv (num : ℚ)]

theorem ratio_pos (m : Nat) (q : Int) : 0 < (ratio m q).2 := by
  rw [ratio]
  split
  · exact Nat.one_pos
  · rw [Nat.shiftLeft_eq]
    positivity

theorem ratio_eq (m : Nat) (q : Int) : ((ratio m q).1 : ℚ) / (ratio m q).2 = m * 2 ^ q := by
  rw [ratio]
  split
  · rename_i hq
    rw [Nat.shiftLeft_eq, Nat.cast_mul, two_zpow_toNat hq, Nat.cast_one, div_one]
  · rw [Nat.shiftLeft_eq, one_mul, two_zpow_toNat (by omega), zpow_neg, div_inv_eq_mul]

/-! ### Rounding -/

/-- **Rounding adds half a unit at most.** -/
theorem roundDiv_le {n d : Nat} (hd : 0 < d) : (roundDiv n d : ℚ) ≤ n / d + 1 / 2 := by
  have hsplit := Nat.div_add_mod n d
  have htwice : 2 * (d * roundDiv n d) ≤ 2 * n + d := by
    have hup : d * (n / d + 1) = d * (n / d) + d := Nat.mul_succ _ _
    unfold roundDiv
    dsimp only
    split
    · omega
    · split
      · omega
      · split <;> omega
  have hcast : (2 * (d * roundDiv n d) : ℚ) ≤ 2 * n + d := by exact_mod_cast htwice
  have hpos : (0 : ℚ) < d := by exact_mod_cast hd
  have hhalf : (n : ℚ) / d + 1 / 2 = (2 * n + d) / (2 * d) := by
    field_simp
  rw [hhalf, le_div_iff₀ (by positivity)]
  linarith

theorem div_le_roundDiv (n d : Nat) : n / d ≤ roundDiv n d := by
  unfold roundDiv
  dsimp only
  split
  · exact le_rfl
  · split
    · omega
    · split <;> omega

/-! ### The exponent -/

/-- The exponent for which a quotient has 54 bits or 53 before the point. -/
def guess (num den : Nat) : Int := (Nat.log2 num : Int) - Nat.log2 den - 53

/-- The exponent that a quotient is rounded with. -/
def exponent (num den : Nat) : Int :=
  let (n, d) := scaleRatio num den (guess num den)
  max minExponent (if 2 * hiddenBit ≤ n / d then guess num den + 1 else guess num den)

/-- The significand that a quotient is rounded to. -/
def significand (num den : Nat) : Nat :=
  let (n, d) := scaleRatio num den (exponent num den)
  roundDiv n d

theorem ofRatio_eq (h : num ≠ 0) : ofRatio num den =
    (let bits := (exponent num den + 1074).toNat * hiddenBit + significand num den
    if 2047 * hiddenBit ≤ bits then ⟨0x7FF0000000000000⟩ else ⟨UInt64.ofNat bits⟩) := by
  rw [ofRatio, if_neg h]
  rfl

theorem two_zpow_log2_le (h : num ≠ 0) : (2 : ℚ) ^ (Nat.log2 num : Int) ≤ num := by
  rw [zpow_natCast]
  exact_mod_cast Nat.log2_self_le h

theorem lt_two_zpow_log2 (num : Nat) : (num : ℚ) < 2 ^ ((Nat.log2 num : Int) + 1) := by
  rw [← Nat.cast_succ, zpow_natCast]
  exact_mod_cast Nat.lt_log2_self

/-- The guess leaves 54 bits at most, and 53 at least. -/
theorem guess_bounds (hnum : 0 < num) (hden : 0 < den) :
    (2 : ℚ) ^ 52 ≤ num / den / 2 ^ guess num den ∧
      (num : ℚ) / den / 2 ^ guess num den < 2 ^ 54 := by
  have hdenQ : (0 : ℚ) < den := by exact_mod_cast hden
  have hnumLow := two_zpow_log2_le hnum.ne'
  have hnumHigh := lt_two_zpow_log2 num
  have hdenLow := two_zpow_log2_le hden.ne'
  have hdenHigh := lt_two_zpow_log2 den
  rw [div_div, le_div_iff₀ (by positivity), div_lt_iff₀ (by positivity)]
  constructor
  · calc (2 : ℚ) ^ 52 * (den * 2 ^ guess num den)
        ≤ 2 ^ 52 * (2 ^ ((Nat.log2 den : Int) + 1) * 2 ^ guess num den) := by gcongr
      _ = 2 ^ (Nat.log2 num : Int) := by
          rw [← zpow_natCast, ← zpow_add₀ two_ne_zero, ← zpow_add₀ two_ne_zero, guess]
          congr 1
          push_cast
          ring
      _ ≤ num := hnumLow
  · calc (num : ℚ) < 2 ^ ((Nat.log2 num : Int) + 1) := hnumHigh
      _ = 2 ^ 54 * (2 ^ (Nat.log2 den : Int) * 2 ^ guess num den) := by
          rw [← zpow_natCast, ← zpow_add₀ two_ne_zero, ← zpow_add₀ two_ne_zero, guess]
          congr 1
          push_cast
          ring
      _ ≤ 2 ^ 54 * (den * 2 ^ guess num den) := by gcongr

theorem hiddenBit_eq : (hiddenBit : ℚ) = 2 ^ 52 := by
  rw [hiddenBit]
  norm_num

/-- The guess leaves 54 bits where one more leaves 53. -/
theorem two_mul_hiddenBit_le_iff (hden : 0 < den) (q : Int) :
    2 * hiddenBit ≤ (scaleRatio num den q).1 / (scaleRatio num den q).2 ↔
      (2 : ℚ) ^ 53 ≤ num / den / 2 ^ q := by
  have hpos := scaleRatio_pos num hden q
  have hposQ : (0 : ℚ) < (scaleRatio num den q).2 := by exact_mod_cast hpos
  have htwice : (2 : ℚ) ^ 53 = ((2 * hiddenBit : Nat) : ℚ) := by
    rw [Nat.cast_mul, hiddenBit_eq]
    norm_num
  rw [Nat.le_div_iff_mul_le hpos, ← scaleRatio_eq, htwice, le_div_iff₀ hposQ]
  norm_cast

theorem minExponent_le : minExponent ≤ exponent num den := le_max_left _ _

/-- The exponent before it is bounded below. -/
theorem exponent_cases (hnum : 0 < num) (hden : 0 < den) :
    ∃ q, exponent num den = max minExponent q ∧ (2 : ℚ) ^ 52 ≤ num / den / 2 ^ q ∧
      (num : ℚ) / den / 2 ^ q < 2 ^ 53 := by
  obtain ⟨hlow, hhigh⟩ := guess_bounds hnum hden
  by_cases hwide : (2 : ℚ) ^ 53 ≤ num / den / 2 ^ guess num den
  · refine ⟨guess num den + 1, ?_, ?_, ?_⟩
    · exact congrArg (max minExponent) (if_pos ((two_mul_hiddenBit_le_iff hden _).2 hwide))
    · rw [zpow_add_one₀ two_ne_zero, ← div_div, le_div_iff₀ two_pos]
      linarith
    · rw [zpow_add_one₀ two_ne_zero, ← div_div, div_lt_iff₀ two_pos]
      linarith
  · refine ⟨guess num den, ?_, hlow, not_le.1 hwide⟩
    exact congrArg (max minExponent) (if_neg fun h => hwide ((two_mul_hiddenBit_le_iff hden _).1 h))

/-- **The exponent leaves 53 bits at most**, and as many unless it is the least one. -/
theorem exponent_bounds (hnum : 0 < num) (hden : 0 < den) :
    (num : ℚ) / den / 2 ^ exponent num den < 2 ^ 53 ∧
      (exponent num den = minExponent ∨ (2 : ℚ) ^ 52 ≤ num / den / 2 ^ exponent num den) := by
  obtain ⟨q, hq, hlow, hhigh⟩ := exponent_cases hnum hden
  rw [hq]
  constructor
  · refine lt_of_le_of_lt ?_ hhigh
    have hle : (2 : ℚ) ^ q ≤ 2 ^ max minExponent q :=
      zpow_le_zpow_right₀ one_le_two (le_max_right _ _)
    gcongr
  · rcases le_total q minExponent with h | h
    · exact .inl (max_eq_left h)
    · rw [max_eq_right h]
      exact .inr hlow

/-! ### The bits -/

/-- A finite double has 53 bits at most, and none of weight `2 ^ 1024`. -/
theorem bounds_of_parts {d : Double} {b : Bool} {m : Nat} {q : Int}
    (h : d.parts = .finite b m q) : m < 2 * hiddenBit ∧ q ≤ 971 := by
  have hhidden : hiddenBit = 4503599627370496 := rfl
  have hfraction := Nat.mod_lt d.bits.toNat (by decide : 0 < hiddenBit)
  have hfield := Nat.mod_lt (d.bits.toNat / hiddenBit) (by decide : 0 < 2048)
  rw [parts] at h
  split at h
  · split at h <;> cases h
  split at h
  · cases h
    exact ⟨by omega, by decide⟩
  · cases h
    exact ⟨by omega, by omega⟩

/-- The bits of an exponent and a significand, which runs into the exponent with its 53rd bit and
with a carry. -/
def packed (e m : Nat) : Nat := e * hiddenBit + m

theorem parts_of_bits {field fraction : Nat} (hfield : field < 2047)
    (hfraction : fraction < hiddenBit) :
    parts ⟨UInt64.ofNat (field * hiddenBit + fraction)⟩ =
      if field = 0 then .finite false fraction minExponent
      else .finite false (hiddenBit + fraction) (field - 1075) := by
  have hhidden : hiddenBit = 4503599627370496 := rfl
  have hbits : (UInt64.ofNat (field * hiddenBit + fraction)).toNat =
      field * hiddenBit + fraction := by
    rw [UInt64.toNat_ofNat', Nat.mod_eq_of_lt]
    rw [hhidden]
    omega
  have hnegative : negative ⟨UInt64.ofNat (field * hiddenBit + fraction)⟩ = false := by
    rw [negative, decide_eq_false_iff_not, UInt64.le_iff_toNat_le, hbits, hhidden]
    have hsign : (0x8000000000000000 : UInt64).toNat = 9223372036854775808 := rfl
    omega
  have hdiv : (field * hiddenBit + fraction) / hiddenBit % 2048 = field := by
    rw [hhidden]
    omega
  have hmod : (field * hiddenBit + fraction) % hiddenBit = fraction := by
    rw [hhidden]
    omega
  simp only [parts, hbits, hnegative, hdiv, hmod, if_neg (Nat.ne_of_lt hfield)]

/-- **Bits below those of an infinity have the number of their exponent and significand.** -/
theorem parts_packed {e m : Nat} (hm : m ≤ 2 * hiddenBit) (hleading : e = 0 ∨ hiddenBit ≤ m)
    (h : packed e m < 2047 * hiddenBit) :
    ∃ m' q', parts ⟨UInt64.ofNat (packed e m)⟩ = .finite false m' q' ∧
      (m' : ℚ) * 2 ^ q' = m * 2 ^ ((e : Int) - 1074) := by
  have hhidden : hiddenBit = 4503599627370496 := rfl
  have hfield : e * hiddenBit + m < 2047 * hiddenBit := h
  rw [hhidden] at hfield
  rw [packed]
  rcases Nat.lt_or_ge m hiddenBit with hlt | hge
  · -- a subnormal number, or zero
    have he : e = 0 := hleading.resolve_right (by omega)
    subst he
    exact ⟨m, minExponent, parts_of_bits (by decide) hlt, rfl⟩
  · rcases Nat.lt_or_ge m (2 * hiddenBit) with hlt | hcarry
    · -- the leading bit adds one to the field
      have hbits : e * hiddenBit + m = (e + 1) * hiddenBit + (m - hiddenBit) := by
        rw [Nat.succ_mul]
        omega
      rw [hbits, parts_of_bits (by omega) (by omega), if_neg (Nat.succ_ne_zero e)]
      refine ⟨_, _, rfl, ?_⟩
      rw [Nat.add_sub_cancel' hge]
      congr 2
      push_cast
      ring
    · -- a carry adds two, and leaves no fraction
      have hm : m = 2 * hiddenBit := by omega
      subst hm
      have hbits : e * hiddenBit + 2 * hiddenBit = (e + 2) * hiddenBit + 0 := by ring
      rw [hbits, parts_of_bits (by omega) (by decide), if_neg (Nat.succ_ne_zero _)]
      refine ⟨_, _, rfl, ?_⟩
      have hexponent : ((e + 2 : Nat) : Int) - 1075 = ((e : Int) - 1074) + 1 := by
        push_cast
        ring
      rw [hexponent, zpow_add_one₀ two_ne_zero, Nat.add_zero, Nat.cast_mul]
      push_cast
      ring

/-! ### Rounded quotients -/

/-- The least number that is rounded to an infinity: half a unit beyond the greatest double. -/
def limit : ℚ := (2 ^ 54 - 1) * 2 ^ 970

/-- The unit of the greatest doubles. -/
theorem two_zpow_greatest : (2 : ℚ) ^ (971 : Int) = 2 * 2 ^ 970 := by
  rw [← pow_succ']
  rfl

theorem significand_le (num : Nat) (hden : 0 < den) :
    (significand num den : ℚ) ≤ num / den / 2 ^ exponent num den + 1 / 2 := by
  rw [← scaleRatio_eq]
  exact roundDiv_le (scaleRatio_pos num hden _)

theorem significand_le_two_mul (hnum : 0 < num) (hden : 0 < den) :
    significand num den ≤ 2 * hiddenBit := by
  have hle := significand_le num hden
  have hlt := (exponent_bounds hnum hden).1
  have hhidden : ((2 * hiddenBit : Nat) : ℚ) = 2 ^ 53 := by
    rw [Nat.cast_mul, hiddenBit_eq]
    norm_num
  have hsucc : (significand num den : ℚ) < ((2 * hiddenBit + 1 : Nat) : ℚ) := by
    rw [Nat.cast_succ, hhidden]
    linarith
  exact Nat.lt_succ_iff.1 (by exact_mod_cast hsucc)

theorem hiddenBit_le_significand (hden : 0 < den)
    (h : (2 : ℚ) ^ 52 ≤ num / den / 2 ^ exponent num den) : hiddenBit ≤ significand num den := by
  have hpos := scaleRatio_pos num hden (exponent num den)
  rw [← scaleRatio_eq, ← hiddenBit_eq, le_div_iff₀ (by exact_mod_cast hpos)] at h
  have hfloor : hiddenBit ≤ (scaleRatio num den (exponent num den)).1 /
      (scaleRatio num den (exponent num den)).2 := by
    rw [Nat.le_div_iff_mul_le hpos]
    exact_mod_cast h
  exact hfloor.trans (div_le_roundDiv _ _)

/-- **A quotient below the limit has bits below those of an infinity.** -/
theorem packed_lt (hnum : 0 < num) (hden : 0 < den) (h : (num : ℚ) / den < limit) :
    packed (exponent num den + 1074).toNat (significand num den) < 2047 * hiddenBit := by
  have hhidden : hiddenBit = 4503599627370496 := rfl
  have hleast : -1074 ≤ exponent num den := minExponent_le
  have hbits := significand_le_two_mul hnum hden
  have hexponent : exponent num den ≤ 971 := by
    rcases (exponent_bounds hnum hden).2 with hmin | hlow
    · rw [hmin]
      decide
    · by_contra hgt
      have hpow : (2 : ℚ) ^ (972 : Int) ≤ 2 ^ exponent num den :=
        zpow_le_zpow_right₀ one_le_two (by omega)
      rw [le_div_iff₀ (by positivity)] at hlow
      have hbeyond : limit ≤ 2 ^ 52 * (2 : ℚ) ^ (972 : Int) := by
        rw [limit, show (972 : Int) = 971 + 1 from rfl, zpow_add_one₀ two_ne_zero,
          two_zpow_greatest, mul_right_comm 2, ← mul_assoc]
        gcongr
        norm_num
      have hprod : (2 : ℚ) ^ 52 * 2 ^ (972 : Int) ≤ 2 ^ 52 * 2 ^ exponent num den := by gcongr
      linarith
  rw [packed]
  rcases Int.lt_or_eq_of_le hexponent with hlt | heq
  · have hfields : (exponent num den + 1074).toNat ≤ 2044 := by omega
    have hmul := Nat.mul_le_mul_right hiddenBit hfields
    omega
  · have hle := significand_le num hden
    have hscaled : (num : ℚ) / den / 2 ^ exponent num den < 2 ^ 53 - 1 / 2 := by
      rw [heq, div_lt_iff₀ (by positivity)]
      refine h.trans_le (le_of_eq ?_)
      rw [limit, two_zpow_greatest, ← mul_assoc]
      congr 1
      norm_num
    have hlt : (significand num den : ℚ) < ((9007199254740992 : Nat) : ℚ) := by
      push_cast
      linarith
    have hlt : significand num den < 9007199254740992 := by exact_mod_cast hlt
    have hfield : ((971 : Int) + 1074).toNat = 2045 := rfl
    rw [heq, hfield, hhidden]
    omega

/-- **A quotient below the limit is rounded to a finite double**, and it grows by one part in
`2 ^ 53` at most, if it is not below one. -/
theorem parts_ofRatio (num : Nat) (hden : 0 < den) (h : (num : ℚ) / den < limit) :
    ∃ m q, (ofRatio num den).parts = .finite false m q ∧
      (1 ≤ (num : ℚ) / den → (m : ℚ) * 2 ^ q ≤ num / den * (1 + 1 / 2 ^ 53)) := by
  rcases Nat.eq_zero_or_pos num with rfl | hnum
  · refine ⟨0, minExponent, ?_, fun hone => ?_⟩
    · rw [ofRatio, if_pos rfl]
      decide
    · norm_num at hone
  have hleast : -1074 ≤ exponent num den := minExponent_le
  have hlt := packed_lt hnum hden h
  obtain ⟨-, hcases⟩ := exponent_bounds hnum hden
  have hleading : (exponent num den + 1074).toNat = 0 ∨ hiddenBit ≤ significand num den := by
    refine hcases.imp (fun hmin => ?_) (hiddenBit_le_significand hden)
    rw [hmin]
    rfl
  obtain ⟨m, q, hparts, hvalue⟩ :=
    parts_packed (significand_le_two_mul hnum hden) hleading hlt
  refine ⟨m, q, ?_, fun hone => ?_⟩
  · rw [ofRatio_eq hnum.ne']
    dsimp only
    rw [← packed, if_neg (not_le.2 hlt), hparts]
  · have hexponent : (((exponent num den + 1074).toNat : Nat) : Int) - 1074 = exponent num den := by
      omega
    have hpos : (0 : ℚ) < 2 ^ exponent num den := by positivity
    -- a unit is one part in `2 ^ 52`, also where the exponent is the least one
    have hunit : (2 : ℚ) ^ exponent num den * 2 ^ 52 ≤ num / den := by
      rcases hcases with hmin | hlow
      · rw [hmin]
        refine le_trans ?_ hone
        calc (2 : ℚ) ^ (-1074 : Int) * 2 ^ 52 = 2 ^ (-1022 : Int) := by
              rw [← zpow_natCast, ← zpow_add₀ two_ne_zero]
              rfl
          _ ≤ 1 := zpow_le_one_of_nonpos₀ one_le_two (by decide)
      · rwa [le_div_iff₀ hpos, mul_comm] at hlow
    rw [hvalue, hexponent]
    calc (significand num den : ℚ) * 2 ^ exponent num den
        ≤ (num / den / 2 ^ exponent num den + 1 / 2) * 2 ^ exponent num den := by
          have hle := significand_le num hden
          gcongr
      _ = num / den + 2 ^ exponent num den * 2 ^ 52 * (1 / 2 ^ 53) := by
          field_simp
      _ ≤ num / den + num / den * (1 / 2 ^ 53) := by gcongr
      _ = num / den * (1 + 1 / 2 ^ 53) := by ring

/-- **A natural number below the limit is rounded to a finite double**, and it grows by one part in
`2 ^ 53` at most. -/
theorem parts_ofNat {n : Nat} (h : (n : ℚ) < limit) :
    ∃ m q, (ofNat n).parts = .finite false m q ∧ (m : ℚ) * 2 ^ q ≤ n * (1 + 1 / 2 ^ 53) := by
  rcases Nat.eq_zero_or_pos n with rfl | hpos
  · exact ⟨0, minExponent, by decide, by simp⟩
  · have hone : (1 : ℚ) ≤ (n : ℚ) / (1 : Nat) := by
      rw [Nat.cast_one, div_one]
      exact_mod_cast hpos
    obtain ⟨m, q, hparts, hle⟩ := parts_ofRatio n Nat.one_pos (by simpa using h)
    exact ⟨m, q, hparts, by simpa using hle hone⟩

/-- **A product below the limit is finite.** -/
theorem parts_mul {x y : Double} {b b' : Bool} {m m' : Nat} {q q' : Int}
    (hx : x.parts = .finite b m q) (hy : y.parts = .finite b' m' q')
    (h : (m : ℚ) * 2 ^ q * (m' * 2 ^ q') < limit) :
    ∃ m'' q'', (x.mul y).parts = .finite false m'' q'' := by
  have hden : 0 < (ratio m q).2 * (ratio m' q').2 := Nat.mul_pos (ratio_pos m q) (ratio_pos m' q')
  have hvalue : (((ratio m q).1 * (ratio m' q').1 : Nat) : ℚ) /
      ((ratio m q).2 * (ratio m' q').2 : Nat) = m * 2 ^ q * (m' * 2 ^ q') := by
    rw [Nat.cast_mul, Nat.cast_mul, mul_div_mul_comm, ratio_eq, ratio_eq]
  obtain ⟨m'', q'', hparts, -⟩ := parts_ofRatio _ hden (hvalue.trans_lt h)
  refine ⟨m'', q'', ?_⟩
  rw [mul, hx, hy]
  exact hparts

end SpanIntake.Double

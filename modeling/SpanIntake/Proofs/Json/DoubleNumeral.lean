/-
**The numeral of a double is read as a double.**

The numeral of a finite double has a point or an exponent, so that the reader takes it for no
integer.  It takes the digits that fit a word as a significand, and scales that by a power of ten:
the significand, the power and their product are rounded, one after the other.  A negative power
never leads out of the range of doubles.  With another power, what is read grows by two parts in
`2 ^ 53` before the last rounding, and that stays below the limit for every double but the two
greatest: the shortest decimal lies at most half a unit above its double.  The two greatest are left
to evaluation.

Main definitions:

* `Json.safe` — up to here a number may grow so and stay in the range of doubles;
* `Json.NumberText.IsDouble` — a numeral follows the grammar, is none of an integer, and stands for
  a number.

Main results:

* `Json.takeDigits_le` — the digits that are taken spell no more than all of them;
* `Json.isSome_scale` — **a significand is scaled if the result is safe**;
* `Json.NumberText.wellFormed_ofDecimal`, `Json.NumberText.isSome_double?_ofDecimal` — the numeral
  of a decimal follows the grammar, and lies in the range of doubles if the decimal is safe;
* `Json.NumberText.isDouble_of_finite` — **a finite double has a numeral, which is read as a
  double**.
-/

import Mathlib
import SpanIntake.Proofs.Decimal.Interval
import SpanIntake.Proofs.Decimal.Rounding
import SpanIntake.Proofs.Json.Numeral

set_option relaxedAutoImplicit false
set_option autoImplicit false

namespace SpanIntake.Json

open Decimal (NoDigit)

/-! ### Digits that are taken -/

/-- The number that a number and the digits behind it spell. -/
def digitsFrom (n : Nat) (ds : List Char) : Nat :=
  ds.foldl (fun n c => 10 * n + digitValue c) n

theorem digitsFrom_cons (n : Nat) (c : Char) (ds : List Char) :
    digitsFrom n (c :: ds) = digitsFrom (10 * n + digitValue c) ds := by
  rw [digitsFrom, List.foldl_cons, digitsFrom]

theorem digitsValue_cons (c : Char) (ds : List Char) :
    digitsValue (c :: ds) = digitsFrom (digitValue c) ds := by
  rw [digitsValue, List.foldl_cons, Nat.mul_zero, Nat.zero_add, digitsFrom]

theorem le_digitsFrom (n : Nat) (ds : List Char) : n * 10 ^ ds.length ≤ digitsFrom n ds := by
  induction ds generalizing n with
  | nil => exact (Nat.mul_one n).le
  | cons c ds ih =>
      rw [digitsFrom_cons, List.length_cons, pow_succ']
      refine le_trans ?_ (ih _)
      rw [← mul_assoc]
      gcongr
      omega

theorem digitValue_lt {c : Char} (h : c.isDigit = true) : digitValue c < 10 := by
  have hrange : 48 ≤ c.toNat ∧ c.toNat ≤ 57 := Char.isDigit_iff_toNat.1 h
  rw [digitValue]
  omega

theorem digitsFrom_lt {ds : List Char} (hds : ∀ c ∈ ds, c.isDigit = true) (n : Nat) :
    digitsFrom n ds < (n + 1) * 10 ^ ds.length := by
  induction ds generalizing n with
  | nil => exact (Nat.mul_one (n + 1)).symm ▸ Nat.lt_succ_self n
  | cons c ds ih =>
      obtain ⟨hc, hds⟩ := List.forall_mem_cons.1 hds
      have hvalue := digitValue_lt hc
      rw [digitsFrom_cons, List.length_cons, pow_succ', ← mul_assoc]
      refine (ih hds _).trans_le ?_
      gcongr
      omega

/-- What is taken is no more than what the digits spell. -/
theorem takeDigits_le (n : Nat) (ds : List Char) :
    (takeDigits n ds).1 * 10 ^ (takeDigits n ds).2.length ≤ digitsFrom n ds := by
  induction ds generalizing n with
  | nil => exact (Nat.mul_one n).le
  | cons c ds ih =>
      rw [takeDigits]
      split
      · exact ih _
      · exact le_digitsFrom n (c :: ds)

theorem length_takeDigits_le (n : Nat) (ds : List Char) :
    (takeDigits n ds).2.length ≤ ds.length := by
  induction ds generalizing n with
  | nil => exact le_rfl
  | cons c ds ih =>
      rw [takeDigits]
      split
      · exact (ih _).trans (Nat.le_succ _)
      · exact le_rfl

/-- Digits that spell a word are all taken. -/
theorem takeDigits_of_lt {n : Nat} {ds : List Char} (h : digitsFrom n ds < UInt64.size) :
    takeDigits n ds = (digitsFrom n ds, []) := by
  induction ds generalizing n with
  | nil => rfl
  | cons c ds ih =>
      have hle := le_digitsFrom (10 * n + digitValue c) ds
      have hpow : 0 < 10 ^ ds.length := by positivity
      have hnext : 10 * n + digitValue c < UInt64.size :=
        (Nat.le_mul_of_pos_right _ hpow).trans_lt (hle.trans_lt h)
      rw [takeDigits]
      rw [if_pos hnext, ih h, digitsFrom_cons]

/-! ### Powers of ten -/

/-- A negative power of ten can always be divided by. -/
theorem isSome_scale_of_neg {k : Int} (hk : k < 0) (more : Nat) (d : Double) :
    (scale more d k).isSome = true := by
  induction more generalizing d k with
  | zero => rfl
  | succ more ih =>
      rw [scale]
      split
      · rw [if_neg (by omega)]
        rfl
      split
      · rfl
      rw [if_neg (by omega)]
      exact ih (by omega) _

/-- The upper end of the numbers that round to the third greatest double: up to here a number stays
below the limit when its factors are rounded. -/
def safe : ℚ := (2 ^ 54 - 5) * 2 ^ 970

theorem safe_lt_ten_pow : safe < 10 ^ 309 := by
  have hpow : (2 : ℚ) ^ 54 * 2 ^ 970 < 10 ^ 309 := by
    have hnat : 2 ^ 1024 < 10 ^ 309 := by decide +kernel
    have hcast : ((2 ^ 1024 : Nat) : ℚ) < (10 ^ 309 : Nat) := Nat.cast_lt.2 hnat
    rw [Nat.cast_pow, Nat.cast_pow, Nat.cast_ofNat, Nat.cast_ofNat] at hcast
    rwa [← pow_add]
  refine lt_of_le_of_lt ?_ hpow
  rw [safe]
  gcongr
  norm_num

theorem ten_pow_lt_limit {k : Nat} (hk : k ≤ 308) : (10 : ℚ) ^ k < Double.limit := by
  have hgreatest : (10 : ℚ) ^ 308 < Double.limit := by
    have hnat : 10 ^ 308 < 18014398509481983 * 2 ^ 970 := by decide +kernel
    have hcast : ((10 ^ 308 : Nat) : ℚ) < (18014398509481983 * 2 ^ 970 : Nat) :=
      Nat.cast_lt.2 hnat
    rw [Nat.cast_mul, Nat.cast_pow, Nat.cast_pow, Nat.cast_ofNat, Nat.cast_ofNat,
      Nat.cast_ofNat] at hcast
    refine hcast.trans_le (le_of_eq ?_)
    rw [Double.limit]
    congr 1
    norm_num
  exact (pow_le_pow_right₀ (by norm_num) hk).trans_lt hgreatest

/-- What is safe stays below the limit, though both of its factors are rounded. -/
theorem safe_mul_lt : safe * (1 + 1 / 2 ^ 53) ^ 2 < Double.limit := by
  rw [safe, Double.limit, mul_right_comm]
  gcongr
  norm_num

theorem safe_lt_limit : safe < Double.limit := by
  rw [safe, Double.limit]
  gcongr
  norm_num

/-- **A significand is scaled if the result is safe.** -/
theorem isSome_scale {n : Nat} {k : Int} (h : (n : ℚ) * 10 ^ k ≤ safe) :
    (scale 4 (Double.ofNat n) k).isSome = true := by
  rcases lt_or_ge k 0 with hneg | hk
  · exact isSome_scale_of_neg hneg _ _
  obtain ⟨j, rfl⟩ := Int.eq_ofNat_of_zero_le hk
  rw [zpow_natCast] at h
  have hone : (1 : ℚ) ≤ 10 ^ j := one_le_pow₀ (by norm_num)
  rw [scale]
  split
  · rename_i hj
    rw [Int.natAbs_natCast] at hj
    have hn : (n : ℚ) < Double.limit := by
      refine lt_of_le_of_lt ?_ (h.trans_lt safe_lt_limit)
      exact le_mul_of_one_le_right (Nat.cast_nonneg n) hone
    obtain ⟨m, q, hparts, hle⟩ := Double.parts_ofNat hn
    have hten : ((Nat.pow 10 j : Nat) : ℚ) = 10 ^ j := by
      rw [show Nat.pow 10 j = 10 ^ j from rfl]
      push_cast
      rfl
    obtain ⟨m', q', hparts', hle'⟩ :=
      Double.parts_ofNat (n := Nat.pow 10 j) (by rw [hten]; exact ten_pow_lt_limit hj)
    rw [hten] at hle'
    have hproduct : (m : ℚ) * 2 ^ q * (m' * 2 ^ q') < Double.limit := by
      calc (m : ℚ) * 2 ^ q * (m' * 2 ^ q')
          ≤ n * (1 + 1 / 2 ^ 53) * (10 ^ j * (1 + 1 / 2 ^ 53)) := by gcongr
        _ = n * 10 ^ j * (1 + 1 / 2 ^ 53) ^ 2 := by ring
        _ ≤ safe * (1 + 1 / 2 ^ 53) ^ 2 := by gcongr
        _ < Double.limit := safe_mul_lt
    obtain ⟨m'', q'', hfinite⟩ := Double.parts_mul hparts hparts' hproduct
    dsimp only
    rw [powerOfTen, Int.toNat_natCast, hfinite, if_neg nofun]
    rfl
  · rename_i hj
    rw [Int.natAbs_natCast] at hj
    -- beyond the range of doubles, there is nothing but zero
    have hzero : n = 0 := by
      by_contra hn
      have hpos : (1 : ℚ) ≤ n := by exact_mod_cast Nat.one_le_iff_ne_zero.2 hn
      have hpow : (10 : ℚ) ^ 309 ≤ 10 ^ j := pow_le_pow_right₀ (by norm_num) (by omega)
      have hbeyond : (10 : ℚ) ^ j ≤ n * 10 ^ j := le_mul_of_one_le_left (by positivity) hpos
      exact absurd safe_lt_ten_pow (not_lt.2 ((hpow.trans hbeyond).trans h))
    subst hzero
    rw [if_pos (by decide)]
    rfl

/-! ### Numerals of decimals -/

namespace NumberText

/-- A numeral is read as a double: it follows the grammar, has a point or an exponent, and stands
for a number. -/
structure IsDouble (n : NumberText) : Prop where
  /-- It follows the grammar. -/
  wellFormed : n.WellFormed
  /-- It is none of an integer. -/
  marked : n.fraction ≠ [] ∨ n.power ≠ none
  /-- It lies in the range of doubles. -/
  inRange : n.double?.isSome = true

theorem IsDouble.value? {n : NumberText} (h : n.IsDouble) :
    ∃ d, n.value? = some (.double d) := by
  obtain ⟨d, hd⟩ := Option.isSome_iff_exists.1 h.inRange
  have hmarked : ¬ (n.fraction.isEmpty = true ∧ n.power.isNone = true) := by
    rintro ⟨hfraction, hpower⟩
    rcases h.marked with hne | hne
    · exact hne (List.isEmpty_iff.1 hfraction)
    · exact hne (Option.isNone_iff_eq_none.1 hpower)
  refine ⟨d, ?_⟩
  rw [NumberText.value?, if_neg hmarked, hd]
  rfl

theorem isSome_scaled? {negative : Bool} {n : Nat} {k : Int}
    (h : (scale 4 (Double.ofNat n) k).isSome = true) : (scaled? negative n k).isSome = true := by
  rw [scaled?, Option.isSome_map, h]

/-- **Sixteen digits before a point and one behind it** are taken, so that the power of ten is
negative. -/
theorem isSome_double?_of_point {n : NumberText} (hn : n.WellFormed) (hpower : n.power = none)
    (hlength : n.whole.length ≤ 16) (hne : n.fraction ≠ []) : n.double?.isSome = true := by
  have hpow : 10 ^ n.whole.length ≤ 10 ^ 16 := Nat.pow_le_pow_right (by decide) hlength
  have hsize : UInt64.size = 18446744073709551616 := rfl
  have hlt : digitsFrom 0 n.whole < 10 ^ n.whole.length := by
    simpa using digitsFrom_lt hn.whole 0
  have htake : takeDigits 0 n.whole = (digitsFrom 0 n.whole, []) :=
    takeDigits_of_lt (by omega)
  obtain ⟨c, cs, hfraction⟩ := List.exists_cons_of_ne_nil hne
  have hc := digitValue_lt (hn.fraction c (hfraction ▸ List.mem_cons_self))
  have hleft : (takeDigits (digitsFrom 0 n.whole) (c :: cs)).2.length ≤ cs.length := by
    rw [takeDigits, if_pos (by omega)]
    exact length_takeDigits_le _ cs
  simp only [double?, htake, hfraction, hpower]
  refine isSome_scaled? (isSome_scale_of_neg ?_ _ _)
  rw [List.length_nil, List.length_cons]
  omega

/-- A safe decimal has 309 digits before the point at most. -/
theorem lead_le {d : Decimal} (hd : 0 < d.digits) (h : d.value ≤ safe) :
    d.exponent + d.chars.length - 1 ≤ 308 := by
  have hlength : 0 < d.chars.length := Nat.length_toDigits_pos
  have hleading : (10 : ℚ) ^ (d.chars.length - 1) ≤ d.digits := by
    exact_mod_cast Decimal.ten_pow_width_le hd
  have hlt : (10 : ℚ) ^ (d.exponent + d.chars.length - 1) < 10 ^ (309 : Int) := by
    have hsplit : d.exponent + d.chars.length - 1 = (d.chars.length - 1 : Nat) + d.exponent := by
      omega
    rw [hsplit, zpow_add₀ (by norm_num), zpow_natCast]
    refine lt_of_le_of_lt ?_ (h.trans_lt safe_lt_ten_pow)
    rw [Decimal.value]
    gcongr
  have hexponent := (zpow_lt_zpow_iff_right₀ (by norm_num : (1 : ℚ) < 10)).1 hlt
  omega

/-- **A safe decimal with an exponent** lies in the range of doubles. -/
theorem isSome_double?_of_power {negative : Bool} {d : Decimal} (hd : 0 < d.digits)
    (h : d.value ≤ safe) {lead : Int} (hlead : lead = d.exponent + d.chars.length - 1) :
    (double? ⟨negative, d.chars.take 1, d.chars.drop 1,
      some (some (if lead < 0 then '-' else '+'), Nat.toDigits 10 lead.natAbs)⟩).isSome = true := by
  have hmost := lead_le hd h
  rw [← hlead] at hmost
  obtain ⟨c, cs, hchars⟩ := List.exists_cons_of_ne_nil (l := d.chars) Nat.toDigits_ne_nil
  have hvalue : digitsFrom (digitValue c) cs = d.digits := by
    rw [← digitsValue_cons, ← hchars]
    exact digitsValue_toDigits d.digits
  have hc : digitValue c < 10 := digitValue_lt
    (Nat.isDigit_of_mem_toDigits (by decide) (by decide) (hchars ▸ List.mem_cons_self))
  have htake : takeDigits 0 [c] = (digitValue c, []) := by
    have hsize : UInt64.size = 18446744073709551616 := rfl
    rw [takeDigits, if_pos (by omega), takeDigits, Nat.mul_zero, Nat.zero_add]
  have hle := takeDigits_le (digitValue c) cs
  have hleft := length_takeDigits_le (digitValue c) cs
  rw [hchars, List.length_cons] at hlead
  simp only [double?, hchars, List.take_succ_cons, List.take_zero, List.drop_succ_cons,
    List.drop_zero, htake, digitsValue_toDigits, List.length_nil]
  generalize takeDigits (digitValue c) cs = taken at hle hleft ⊢
  obtain ⟨significand, left⟩ := taken
  dsimp only at hle hleft ⊢
  rcases lt_or_ge lead 0 with hneg | hnonneg
  · rw [if_pos hneg]
    split
    · rw [if_neg fun hsign => hsign.2 rfl]
      rfl
    · rw [if_pos rfl]
      refine isSome_scaled? (isSome_scale_of_neg ?_ _ _)
      omega
  · rw [if_neg (not_lt.2 hnonneg), if_neg (by omega), if_neg (by decide)]
    refine isSome_scaled? (isSome_scale (le_trans ?_ h))
    have hexponent : ((0 : Nat) : Int) - (cs.length - left.length : Nat) + lead.natAbs =
        left.length + d.exponent := by
      omega
    rw [hexponent, zpow_add₀ (by norm_num), ← mul_assoc, zpow_natCast, Decimal.value]
    gcongr
    rw [hvalue] at hle
    exact_mod_cast hle

theorem head?_take_succ (ds : List Char) (n : Nat) : (ds.take (n + 1)).head? = ds.head? := by
  cases ds <;> rfl

/-- The numeral of a positive decimal follows the grammar. -/
theorem wellFormed_ofDecimal (negative : Bool) {d : Decimal} (hd : 0 < d.digits) :
    (ofDecimal negative d).WellFormed := by
  have hne : d.chars ≠ [] := Nat.toDigits_ne_nil
  have hdigits : ∀ c ∈ d.chars, c.isDigit = true := fun _ hc =>
    Nat.isDigit_of_mem_toDigits (by decide) (by decide) hc
  have hhead : d.chars.head? ≠ some '0' := Decimal.head?_toDigits hd
  have hzeros : ∀ n, ∀ c ∈ List.replicate n '0', c.isDigit = true := by
    intro n c hc
    rw [List.eq_of_mem_replicate hc]
    rfl
  have htake : ∀ n, ∀ c ∈ d.chars.take n, c.isDigit = true := fun _ c hc =>
    hdigits c (List.mem_of_mem_take hc)
  have hdrop : ∀ n, ∀ c ∈ d.chars.drop n, c.isDigit = true := fun _ c hc =>
    hdigits c (List.mem_of_mem_drop hc)
  have htakeNe : ∀ n, d.chars.take (n + 1) ≠ [] := by
    intro n hnil
    rw [List.take_eq_nil_iff] at hnil
    exact hnil.elim (Nat.succ_ne_zero n) hne
  have hleading : ∀ n, (d.chars.take (n + 1)).head? = some '0' → d.chars.take (n + 1) = ['0'] :=
    fun n hzero => absurd (head?_take_succ d.chars n ▸ hzero) hhead
  unfold ofDecimal
  dsimp only
  split
  · refine ⟨List.append_ne_nil_of_left_ne_nil hne _, List.forall_mem_append.2 ⟨hdigits, hzeros _⟩,
      fun hzero => ?_, hzeros 1, nofun⟩
    rw [List.head?_append_of_ne_nil _ hne] at hzero
    exact absurd hzero hhead
  split
  · exact ⟨htakeNe _, htake _, hleading _, hdrop _, nofun⟩
  split
  · exact ⟨List.cons_ne_nil _ _, hzeros 1, fun _ => rfl,
      List.forall_mem_append.2 ⟨hzeros _, hdigits⟩, nofun⟩
  · refine ⟨htakeNe 0, htake 1, hleading 0, hdrop 1, fun p hp => ?_⟩
    cases hp
    refine ⟨.inr ?_, Nat.toDigits_ne_nil, fun c hc =>
      Nat.isDigit_of_mem_toDigits (by decide) (by decide) hc⟩
    split
    · exact .inr rfl
    · exact .inl rfl

/-- The numeral of a decimal has a point or an exponent, so that it is none of an integer. -/
theorem marked_ofDecimal (negative : Bool) (d : Decimal) :
    (ofDecimal negative d).fraction ≠ [] ∨ (ofDecimal negative d).power ≠ none := by
  have hne : d.chars ≠ [] := Nat.toDigits_ne_nil
  unfold ofDecimal
  dsimp only
  split
  · exact .inl (List.cons_ne_nil _ _)
  split
  · refine .inl ?_
    rw [ne_eq, List.drop_eq_nil_iff]
    omega
  split
  · exact .inl (List.append_ne_nil_of_right_ne_nil _ hne)
  · exact .inr nofun

/-- The numeral of a decimal has an exponent, or sixteen digits before the point at most. -/
theorem ofDecimal_cases (negative : Bool) (d : Decimal) :
    ((ofDecimal negative d).power = none ∧ (ofDecimal negative d).whole.length ≤ 16) ∨
    ∃ lead : Int, lead = d.exponent + d.chars.length - 1 ∧
      ofDecimal negative d = ⟨negative, d.chars.take 1, d.chars.drop 1,
        some (some (if lead < 0 then '-' else '+'), Nat.toDigits 10 lead.natAbs)⟩ := by
  unfold ofDecimal
  dsimp only
  split
  · refine .inl ⟨rfl, ?_⟩
    rw [List.length_append, List.length_replicate]
    omega
  split
  · refine .inl ⟨rfl, ?_⟩
    rw [List.length_take]
    omega
  split
  · exact .inl ⟨rfl, Nat.le_add_left 1 15⟩
  · exact .inr ⟨_, rfl, rfl⟩

/-- **The numeral of a safe decimal lies in the range of doubles.** -/
theorem isSome_double?_ofDecimal (negative : Bool) {d : Decimal} (hd : 0 < d.digits)
    (h : d.value ≤ safe) : (ofDecimal negative d).double?.isSome = true := by
  rcases ofDecimal_cases negative d with ⟨hnone, hlength⟩ | ⟨lead, hlead, heq⟩
  · exact isSome_double?_of_point (wellFormed_ofDecimal negative hd) hnone hlength
      ((marked_ofDecimal negative d).resolve_right (not_not_intro hnone))
  · rw [heq]
    exact isSome_double?_of_power hd h hlead

/-! ### Numerals of doubles -/

/-- All doubles but the two greatest are rounded to from safe numbers only. -/
theorem upperEnd_le_safe {m : Nat} {q : Int} (hm : m < 2 ^ 53) (hq : q ≤ 971)
    (h : q = 971 → m ≤ 2 ^ 53 - 3) : ((m : ℚ) + 1 / 2) * 2 ^ q ≤ safe := by
  rcases Int.lt_or_eq_of_le hq with hlt | rfl
  · have hpow : (2 : ℚ) ^ q ≤ 2 ^ (970 : Int) := zpow_le_zpow_right₀ one_le_two (by omega)
    have hle : m + 1 ≤ 2 ^ 53 := hm
    have hmQ : (m : ℚ) + 1 ≤ 2 ^ 53 := by exact_mod_cast hle
    have hsmall : (m : ℚ) + 1 / 2 ≤ 2 ^ 54 - 5 := by linarith
    rw [safe]
    exact mul_le_mul hsmall hpow (by positivity) (by norm_num)
  · have hle : m + 3 ≤ 2 ^ 53 := by
      have hm := h rfl
      omega
    have hmQ : (m : ℚ) + 3 ≤ 2 ^ 53 := by exact_mod_cast hle
    rw [safe, Double.two_zpow_greatest, ← mul_assoc]
    gcongr
    linarith

/-- **The numeral of a positive double lies in the range of doubles.** -/
theorem isSome_double?_shortest (negative : Bool) {m : Nat} {q : Int} (hpos : 0 < m)
    (hm : m < 2 ^ 53) (hq : q ≤ 971) :
    (ofDecimal negative (Decimal.shortest .even m q)).double?.isSome = true := by
  by_cases hsafe : q = 971 → m ≤ 2 ^ 53 - 3
  · have hwidth : m ≤ 10 ^ 22 := by omega
    obtain ⟨hd, hle⟩ := Decimal.shortest_bounds .even q hpos hwidth
    exact isSome_double?_ofDecimal negative hd (hle.trans (upperEnd_le_safe hm hq hsafe))
  · -- of the two greatest doubles, the numerals are known
    obtain ⟨rfl, hm⟩ := Classical.not_imp.1 hsafe
    have hgreatest : m = 9007199254740990 ∨ m = 9007199254740991 := by omega
    rcases hgreatest with rfl | rfl <;> cases negative <;> decide +kernel

theorem isDouble_zero (negative : Bool) : IsDouble ⟨negative, ['0'], ['0'], none⟩ := by
  have hzero : ∀ c ∈ ['0'], c.isDigit = true := List.forall_mem_singleton.2 rfl
  have hne : ['0'] ≠ [] := List.cons_ne_nil _ _
  have hwell : WellFormed ⟨negative, ['0'], ['0'], none⟩ := ⟨hne, hzero, fun _ => rfl, hzero, nofun⟩
  exact ⟨hwell, .inl hne, isSome_double?_of_point hwell rfl (Nat.le_add_left 1 15) hne⟩

/-- **A finite double has a numeral, which is read as a double.** -/
theorem isDouble_of_finite {d : Double} {b : Bool} {m : Nat} {q : Int}
    (h : d.parts = .finite b m q) : ∃ n, ofDouble d = some n ∧ n.IsDouble := by
  obtain ⟨hm, hq⟩ := Double.bounds_of_parts h
  have hhidden : Double.hiddenBit = 4503599627370496 := rfl
  rw [ofDouble, h]
  dsimp only
  split
  · exact ⟨_, rfl, isDouble_zero b⟩
  · have hpos : 0 < m := by omega
    obtain ⟨hd, -⟩ := Decimal.shortest_bounds .even q hpos (by omega)
    exact ⟨_, rfl, wellFormed_ofDecimal b hd, marked_ofDecimal b _,
      isSome_double?_shortest b hpos (by omega) hq⟩

end NumberText

end SpanIntake.Json

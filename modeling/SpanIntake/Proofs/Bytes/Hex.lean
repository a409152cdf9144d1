/-
**Hexadecimal text and the order of byte strings.**

A text spells a byte string exactly if it is, in lower case, the text that is written for it; so the
texts that spell anything are those of hexadecimal digits in pairs.  The digits are ordered as their
values are, whence byte strings are ordered as their texts, and byte strings of one length as the
numbers they spell.

Main definitions:

* `Hex.IsDigit` — the hexadecimal digits of either case;
* `Hex.Spells` — so many digits, not all of them zero.

Main results:

* `Hex.decodeChars?_eq_some_iff` — **what a text spells is written as that text in lower case**;
* `Hex.spells_iff` — which texts spell a byte string of a given length that is not all zero;
* `Hex.encode_lt_iff` — **texts are ordered as their byte strings**;
* `Bytes.lt_iff_ofBigEndian_lt` — **byte strings of one length are ordered as their numbers**.
-/

import Mathlib.Data.List.Induction
import Mathlib.Tactic.Push
import Mathlib.Tactic.SplitIfs
import SpanIntake.Bytes.Hex

set_option relaxedAutoImplicit false
set_option autoImplicit false

namespace SpanIntake

namespace Hex

/-! ### Digits -/

/-- A hexadecimal digit of either case. -/
def IsDigit (c : Char) : Prop :=
  ('0' ≤ c ∧ c ≤ '9') ∨ ('a' ≤ c ∧ c ≤ 'f') ∨ ('A' ≤ c ∧ c ≤ 'F')

theorem char_le_iff {a b : Char} : a ≤ b ↔ a.toNat ≤ b.toNat := by
  rw [Char.le_def, UInt32.le_iff_toNat_le]
  rfl

theorem toNat_toLower (c : Char) :
    c.toLower.toNat = if 65 ≤ c.toNat ∧ c.toNat ≤ 90 then c.toNat + 32 else c.toNat := by
  unfold Char.toLower
  split
  case isTrue h =>
    have hrange : 65 ≤ c.toNat ∧ c.toNat ≤ 90 := by simpa [UInt32.le_iff_toNat_le] using h
    rw [if_pos hrange]
    show (c.val + 32).toNat = c.toNat + 32
    rw [UInt32.toNat_add]
    show (c.toNat + 32) % _ = _
    omega
  case isFalse h =>
    rw [if_neg]
    simpa [UInt32.le_iff_toNat_le] using h

/-- The digits by their numbers. -/
theorem toNat_digit {n : Nat} (h : n < 16) :
    (digit n).toNat = if n < 10 then 48 + n else 87 + n := by
  have hall : ∀ n : Fin 16,
      (digit n.val).toNat = if n.val < 10 then 48 + n.val else 87 + n.val := by
    decide
  exact hall ⟨n, h⟩

theorem digit_inj {m n : Nat} (hm : m < 16) (hn : n < 16) : digit m = digit n ↔ m = n := by
  rw [← Char.toNat_inj, toNat_digit hm, toNat_digit hn]
  split <;> split <;> omega

/-- **The digits are ordered as their values.** -/
theorem digit_lt_iff {m n : Nat} (hm : m < 16) (hn : n < 16) : digit m < digit n ↔ m < n := by
  have hlt : digit m < digit n ↔ (digit m).toNat < (digit n).toNat := by
    rw [Char.lt_def, UInt32.lt_iff_toNat_lt]
    rfl
  rw [hlt, toNat_digit hm, toNat_digit hn]
  split <;> split <;> omega

/-- **A character stands for a number exactly if it is its digit in lower case.** -/
theorem digitValue?_eq_some_iff {c : Char} {n : Nat} :
    digitValue? c = some n ↔ n < 16 ∧ digit n = c.toLower := by
  have hranges : digitValue? c = some n ↔
      (48 ≤ c.toNat ∧ c.toNat ≤ 57 ∧ n = c.toNat - 48) ∨
      (97 ≤ c.toNat ∧ c.toNat ≤ 102 ∧ n = c.toNat - 87) ∨
      (65 ≤ c.toNat ∧ c.toNat ≤ 70 ∧ n = c.toNat - 55) := by
    have h0 : '0'.toNat = 48 := rfl
    have h9 : '9'.toNat = 57 := rfl
    have ha : 'a'.toNat = 97 := rfl
    have hf : 'f'.toNat = 102 := rfl
    have hA : 'A'.toNat = 65 := rfl
    have hF : 'F'.toNat = 70 := rfl
    simp only [digitValue?, char_le_iff, h0, h9, ha, hf, hA, hF]
    split_ifs <;> simp only [Option.some.injEq, false_iff] <;> omega
  rw [hranges]
  constructor
  · intro h
    have hn : n < 16 := by omega
    refine ⟨hn, ?_⟩
    rw [← Char.toNat_inj, toNat_digit hn, toNat_toLower]
    split <;> split <;> omega
  · rintro ⟨hn, h⟩
    rw [← Char.toNat_inj, toNat_digit hn, toNat_toLower] at h
    split at h <;> split at h <;> omega

theorem isDigit_iff {c : Char} : IsDigit c ↔ ∃ n, digitValue? c = some n := by
  unfold IsDigit digitValue?
  split_ifs <;> simp_all

theorem digitValue?_eq_some_zero_iff {c : Char} : digitValue? c = some 0 ↔ c = '0' := by
  constructor
  · intro h
    obtain ⟨-, h⟩ := digitValue?_eq_some_iff.1 h
    rw [← Char.toNat_inj, toNat_digit (by decide), toNat_toLower] at h
    have h0 : '0'.toNat = 48 := rfl
    rw [← Char.toNat_inj, h0]
    split at h <;> split at h <;> omega
  · rintro rfl
    rfl

/-! ### What a text spells -/

theorem length_encodeChars (bs : Bytes) : (encodeChars bs).length = 2 * bs.length := by
  induction bs with
  | nil => rfl
  | cons b bs ih =>
      rw [encodeChars] at ih ⊢
      rw [List.flatMap_cons, List.length_append, ih, ofByte, List.length_cons]
      simp only [List.length_cons, List.length_nil]
      omega

theorem encodeChars_nil : encodeChars [] = [] := rfl

theorem encodeChars_cons (b : UInt8) (bs : Bytes) :
    encodeChars (b :: bs) = digit (b.toNat / 16) :: digit (b.toNat % 16) :: encodeChars bs := rfl

/-- The values of the two digits of a byte. -/
theorem eq_ofNat_iff {b : UInt8} {x y : Nat} (hx : x < 16) (hy : y < 16) :
    UInt8.ofNat (16 * x + y) = b ↔ x = b.toNat / 16 ∧ y = b.toNat % 16 := by
  have hb := b.toNat_lt
  rw [← UInt8.toNat_inj, UInt8.toNat_ofNat']
  omega

theorem decodeChars?_cons_cons_eq_some_iff {a b : Char} {rest : List Char} {bs : Bytes} :
    decodeChars? (a :: b :: rest) = some bs ↔
      ∃ x y more, digitValue? a = some x ∧ digitValue? b = some y ∧
        decodeChars? rest = some more ∧ UInt8.ofNat (16 * x + y) :: more = bs := by
  rw [decodeChars?]
  cases digitValue? a <;> cases digitValue? b <;> cases decodeChars? rest <;> simp

/-- **What a text spells is written as that text in lower case.**  The induction takes two digits at
a time, as the reader does. -/
theorem decodeChars?_eq_some_iff {cs : List Char} {bs : Bytes} :
    decodeChars? cs = some bs ↔ encodeChars bs = cs.map Char.toLower := by
  induction cs using List.twoStepInduction generalizing bs with
  | nil => cases bs <;> simp [decodeChars?, encodeChars_nil, encodeChars_cons]
  | singleton a => cases bs <;> simp [decodeChars?, encodeChars_nil, encodeChars_cons]
  | cons_cons a b rest ih _ =>
      rw [decodeChars?_cons_cons_eq_some_iff]
      simp only [digitValue?_eq_some_iff, ih]
      constructor
      · rintro ⟨x, y, more, ⟨hx, ha⟩, ⟨hy, hb⟩, hmore, rfl⟩
        obtain ⟨hhigh, hlow⟩ := (eq_ofNat_iff hx hy).1 rfl
        rw [encodeChars_cons, ← hhigh, ← hlow, ha, hb, hmore, List.map_cons, List.map_cons]
      · intro h
        cases bs with
        | nil => simp [encodeChars_nil] at h
        | cons c more =>
            rw [encodeChars_cons, List.map_cons, List.map_cons, List.cons.injEq,
              List.cons.injEq] at h
            obtain ⟨ha, hb, hmore⟩ := h
            have hhigh : c.toNat / 16 < 16 := by
              have hc := c.toNat_lt
              omega
            have hlow : c.toNat % 16 < 16 := Nat.mod_lt _ (by decide)
            refine ⟨_, _, more, ⟨hhigh, ha⟩, ⟨hlow, hb⟩, hmore, ?_⟩
            rw [(eq_ofNat_iff hhigh hlow).2 ⟨rfl, rfl⟩]

theorem toList_toLower (s : String) : s.toLower.toList = s.toList.map Char.toLower :=
  String.toList_map

theorem decode?_eq_some_iff {s : String} {bs : Bytes} :
    decode? s = some bs ↔ encode bs = s.toLower := by
  rw [decode?, decodeChars?_eq_some_iff, ← String.toList_inj, encode, String.toList_ofList,
    toList_toLower]

/-- Pairs of digits spell something. -/
theorem exists_decodeChars?_iff {cs : List Char} :
    (∃ bs, decodeChars? cs = some bs) ↔ cs.length % 2 = 0 ∧ ∀ c ∈ cs, IsDigit c := by
  induction cs using List.twoStepInduction with
  | nil => simp [decodeChars?]
  | singleton a => simp [decodeChars?]
  | cons_cons a b rest ih _ =>
      simp only [decodeChars?_cons_cons_eq_some_iff, List.forall_mem_cons, List.length_cons,
        isDigit_iff]
      simp only [isDigit_iff] at ih
      constructor
      · rintro ⟨_, x, y, more, ha, hb, hmore, -⟩
        obtain ⟨hlength, hrest⟩ := ih.1 ⟨more, hmore⟩
        exact ⟨by omega, ⟨x, ha⟩, ⟨y, hb⟩, hrest⟩
      · rintro ⟨hlength, ⟨x, ha⟩, ⟨y, hb⟩, hrest⟩
        obtain ⟨more, hmore⟩ := ih.2 ⟨by omega, hrest⟩
        exact ⟨_, x, y, more, ha, hb, hmore, rfl⟩

/-- Zeros alone spell zeros alone. -/
theorem forall_eq_zero_iff {cs : List Char} {bs : Bytes} (h : decodeChars? cs = some bs) :
    (∀ c ∈ cs, c = '0') ↔ ∀ b ∈ bs, b = 0 := by
  induction cs using List.twoStepInduction generalizing bs with
  | nil =>
      cases h
      simp
  | singleton a => simp [decodeChars?] at h
  | cons_cons a b rest ih _ =>
      obtain ⟨x, y, more, ha, hb, hmore, rfl⟩ := decodeChars?_cons_cons_eq_some_iff.1 h
      obtain ⟨hx, -⟩ := digitValue?_eq_some_iff.1 ha
      obtain ⟨hy, -⟩ := digitValue?_eq_some_iff.1 hb
      have hzero : UInt8.ofNat (16 * x + y) = 0 ↔ x = 0 ∧ y = 0 := eq_ofNat_iff hx hy
      rw [List.forall_mem_cons, List.forall_mem_cons, List.forall_mem_cons, ih hmore, hzero,
        ← digitValue?_eq_some_zero_iff, ← digitValue?_eq_some_zero_iff, ha, hb, Option.some.injEq,
        Option.some.injEq, and_assoc]

/-- A text of so many digits, not all of them zero. -/
structure Spells (count : Nat) (s : String) : Prop where
  length : s.toList.length = count
  digits : ∀ c ∈ s.toList, IsDigit c
  ne_zero : ∃ c ∈ s.toList, c ≠ '0'

/-- **Which texts spell a byte string of a length that is not all zero.** -/
theorem spells_iff {n : Nat} {s : String} :
    Spells (2 * n) s ↔ ∃ bs, decode? s = some bs ∧ bs.length = n ∧ ∃ b ∈ bs, b ≠ 0 := by
  have hlength {bs : Bytes} (h : decode? s = some bs) : s.toList.length = 2 * bs.length := by
    rw [← length_encodeChars, decodeChars?_eq_some_iff.1 h, List.length_map]
  have hne {bs : Bytes} (h : decode? s = some bs) :
      (∃ c ∈ s.toList, c ≠ '0') ↔ ∃ b ∈ bs, b ≠ 0 := by
    have hzero := not_congr (forall_eq_zero_iff h)
    push Not at hzero
    exact hzero
  constructor
  · rintro ⟨hcount, hdigits, hnonzero⟩
    obtain ⟨bs, hbs⟩ := exists_decodeChars?_iff.2 ⟨by omega, hdigits⟩
    have heq := hlength hbs
    exact ⟨bs, hbs, by omega, (hne hbs).1 hnonzero⟩
  · rintro ⟨bs, hbs, rfl, hnonzero⟩
    exact ⟨hlength hbs, (exists_decodeChars?_iff.1 ⟨bs, hbs⟩).2, (hne hbs).2 hnonzero⟩

/-! ### The order of texts -/

/-- **Texts are ordered as the byte strings they spell.** -/
theorem encodeChars_lex_iff {xs ys : Bytes} :
    List.Lex (· < ·) (encodeChars xs) (encodeChars ys) ↔ List.Lex (· < ·) xs ys := by
  induction xs generalizing ys with
  | nil => cases ys <;> simp [encodeChars_nil, encodeChars_cons]
  | cons x xs ih =>
      cases ys with
      | nil => simp [encodeChars_nil, encodeChars_cons]
      | cons y ys =>
          have hx := x.toNat_lt
          have hy := y.toNat_lt
          have hxlow : x.toNat % 16 < 16 := Nat.mod_lt _ (by decide)
          have hylow : y.toNat % 16 < 16 := Nat.mod_lt _ (by decide)
          rw [encodeChars_cons, encodeChars_cons, List.cons_lex_cons_iff, List.cons_lex_cons_iff,
            List.cons_lex_cons_iff, ih, digit_lt_iff (by omega) (by omega),
            digit_lt_iff hxlow hylow,
            digit_inj (by omega) (by omega), digit_inj hxlow hylow, UInt8.lt_iff_toNat_lt,
            ← UInt8.toNat_inj]
          by_cases hrest : List.Lex (· < ·) xs ys
          · simp only [hrest, and_true]
            omega
          · simp only [hrest, and_false, or_false]
            omega

theorem encode_lt_iff {xs ys : Bytes} : encode xs < encode ys ↔ xs < ys := by
  rw [String.lt_iff, encode, encode, String.toList_ofList, String.toList_ofList]
  exact encodeChars_lex_iff

end Hex

/-! ### The order of numbers -/

namespace Bytes

theorem ofLittleEndian_append (xs ys : Bytes) :
    ofLittleEndian (xs ++ ys) = ofLittleEndian xs + Nat.pow 256 xs.length * ofLittleEndian ys := by
  induction xs with
  | nil => simp [ofLittleEndian]
  | cons x xs ih =>
      rw [List.cons_append, ofLittleEndian, ofLittleEndian, ih, List.length_cons, pow_succ_eq,
        Nat.mul_add, Nat.mul_assoc, Nat.add_assoc]

/-- What stands in front counts for more. -/
theorem ofBigEndian_append (xs ys : Bytes) :
    ofBigEndian (xs ++ ys) = ofBigEndian ys + Nat.pow 256 ys.length * ofBigEndian xs := by
  rw [ofBigEndian, List.reverse_append, ofLittleEndian_append, List.length_reverse]
  rfl

theorem ofBigEndian_lt (bs : Bytes) : ofBigEndian bs < Nat.pow 256 bs.length := by
  have hlt := ofLittleEndian_lt bs.reverse
  rwa [List.length_reverse] at hlt

/-- Two digits in a base are ordered by the first, and where that is the same by the second. -/
theorem add_mul_lt_iff {m a b x y : Nat} (hx : x < m) (hy : y < m) :
    x + m * a < y + m * b ↔ a < b ∨ a = b ∧ x < y := by
  rcases Nat.lt_trichotomy a b with h | rfl | h
  · have hmul : m * (a + 1) ≤ m * b := Nat.mul_le_mul_left m h
    rw [Nat.mul_succ] at hmul
    simp only [h, true_or, iff_true]
    omega
  · simp
  · have hmul : m * (b + 1) ≤ m * a := Nat.mul_le_mul_left m h
    rw [Nat.mul_succ] at hmul
    have hlt : ¬ a < b := by omega
    have hne : a ≠ b := by omega
    simp only [hlt, hne, false_and, or_false, iff_false]
    omega

/-- **Byte strings of one length are ordered as the numbers they spell.** -/
theorem lt_iff_ofBigEndian_lt {xs ys : Bytes} (h : xs.length = ys.length) :
    xs < ys ↔ ofBigEndian xs < ofBigEndian ys := by
  induction xs generalizing ys with
  | nil =>
      obtain rfl := List.length_eq_zero_iff.1 h.symm
      simp
  | cons x xs ih =>
      cases ys with
      | nil => simp at h
      | cons y ys =>
          have hlength : xs.length = ys.length := Nat.succ.inj h
          have hsingle (b : UInt8) : ofBigEndian [b] = b.toNat := rfl
          have hx := ofBigEndian_lt xs
          rw [hlength] at hx
          rw [List.cons_lt_cons_iff, ih hlength, ← List.singleton_append,
            ← List.singleton_append (x := y), ofBigEndian_append, ofBigEndian_append, hlength,
            add_mul_lt_iff hx (ofBigEndian_lt ys), hsingle, hsingle, UInt8.lt_iff_toNat_lt,
            ← UInt8.toNat_inj]

end Bytes

end SpanIntake

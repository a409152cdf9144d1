/-
**Byte strings and the words written into them.**

Wire formats spell numbers as a fixed count of bytes, least or most significant first.  Both
spellings are defined here on lists, so that what follows a word is simply the rest of the list.

Main definitions

* `SpanIntake.Bytes` — a byte string;
* `Bytes.littleEndian`, `Bytes.bigEndian` — a number as `k` bytes;
* `Bytes.ofLittleEndian`, `Bytes.ofBigEndian` — the number that bytes spell;
* `fitsInt64` — whether an integer fits a signed 64-bit word;
* `addInt64?` — the sum of two such words, where it fits one;
* `Bytes.split?` — cut off a given number of bytes, if there are so many.

Main results

* `Bytes.ofLittleEndian_littleEndian`, `Bytes.ofBigEndian_bigEndian` — reading a word gives the
  number modulo the word's range;
* `Bytes.split?_append` — cutting off a part that was put in front gives both parts back;
* `Bytes.split?_append_of_eq_some` — what is cut off does not depend on the bytes behind.
-/

set_option relaxedAutoImplicit false
set_option autoImplicit false

namespace SpanIntake

/-- A byte string. -/
abbrev Bytes := List UInt8

/-- Whether an integer fits a signed 64-bit word. -/
def fitsInt64 (n : Int) : Bool := Int64.minValue.toInt ≤ n && n ≤ Int64.maxValue.toInt

/-- The sum of two signed 64-bit words, where it fits one. -/
def addInt64? (a b : Int64) : Option Int64 :=
  if fitsInt64 (a.toInt + b.toInt) then some (a + b) else none

namespace Bytes

/-! ### Words -/

/-- The `k` low bytes of `n`, least significant first. -/
def littleEndian : Nat → Nat → Bytes
  | 0, _ => []
  | k + 1, n => UInt8.ofNat n :: littleEndian k (n / 256)

/-- The number whose bytes are given, least significant first. -/
def ofLittleEndian : Bytes → Nat
  | [] => 0
  | b :: rest => b.toNat + 256 * ofLittleEndian rest

/-- The `k` low bytes of `n`, most significant first. -/
def bigEndian (k n : Nat) : Bytes := (littleEndian k n).reverse

/-- The number whose bytes are given, most significant first. -/
def ofBigEndian (bs : Bytes) : Nat := ofLittleEndian bs.reverse

@[simp] theorem length_littleEndian (k n : Nat) : (littleEndian k n).length = k := by
  induction k generalizing n with
  | zero => rfl
  | succ k ih => simp [littleEndian, ih]

@[simp] theorem length_bigEndian (k n : Nat) : (bigEndian k n).length = k := by
  simp [bigEndian]

theorem pow_succ_eq (k : Nat) : Nat.pow 256 (k + 1) = 256 * Nat.pow 256 k :=
  Nat.mul_comm (Nat.pow 256 k) 256

theorem ofLittleEndian_littleEndian (k n : Nat) :
    ofLittleEndian (littleEndian k n) = n % Nat.pow 256 k := by
  induction k generalizing n with
  | zero => simp [littleEndian, ofLittleEndian, Nat.mod_one]
  | succ k ih =>
    rw [littleEndian, ofLittleEndian, ih, pow_succ_eq, Nat.mod_mul, UInt8.toNat_ofNat']

theorem ofBigEndian_bigEndian (k n : Nat) : ofBigEndian (bigEndian k n) = n % Nat.pow 256 k := by
  rw [ofBigEndian, bigEndian, List.reverse_reverse, ofLittleEndian_littleEndian]

theorem littleEndian_ofLittleEndian (bs : Bytes) :
    littleEndian bs.length (ofLittleEndian bs) = bs := by
  induction bs with
  | nil => rfl
  | cons b rest ih =>
    have hb : b.toNat < 256 := b.toNat_lt
    have hdiv : (b.toNat + 256 * ofLittleEndian rest) / 256 = ofLittleEndian rest := by omega
    have hlow : UInt8.ofNat (b.toNat + 256 * ofLittleEndian rest) = b := by
      apply UInt8.toNat_inj.1
      simp only [UInt8.toNat_ofNat']
      omega
    simp [littleEndian, ofLittleEndian, hdiv, hlow, ih]

theorem ofLittleEndian_lt (bs : Bytes) : ofLittleEndian bs < Nat.pow 256 bs.length := by
  induction bs with
  | nil => simp [ofLittleEndian]
  | cons b rest ih =>
    have hb : b.toNat < 256 := b.toNat_lt
    rw [ofLittleEndian, List.length_cons, pow_succ_eq]
    omega

/-! ### Cutting -/

/-- The first `k` bytes and the rest, or nothing where there are fewer than `k`. -/
def split? (k : Nat) (bs : Bytes) : Option (Bytes × Bytes) :=
  if (bs.take k).length = k then some (bs.take k, bs.drop k) else none

theorem split?_append (xs ys : Bytes) : split? xs.length (xs ++ ys) = some (xs, ys) := by
  simp [split?]

theorem split?_eq_none_iff {k : Nat} {bs : Bytes} : split? k bs = none ↔ bs.length < k := by
  rw [split?, List.length_take]
  split
  · simp only [reduceCtorEq, false_iff]
    omega
  · simp only [true_iff]
    omega

/-- What is cut off is the front, and as long as asked for. -/
theorem eq_append_of_split? {k : Nat} {bs w rest : Bytes} (h : split? k bs = some (w, rest)) :
    bs = w ++ rest ∧ w.length = k := by
  rw [split?] at h
  split at h
  · rename_i htake
    cases h
    exact ⟨(List.take_append_drop k bs).symm, htake⟩
  · cases h

/-- What is cut off the front stays the same with more bytes behind. -/
theorem split?_append_of_eq_some {k : Nat} {bs w rest : Bytes} (h : split? k bs = some (w, rest))
    (more : Bytes) : split? k (bs ++ more) = some (w, rest ++ more) := by
  have hle : k ≤ bs.length := by
    rw [← Nat.not_lt, ← split?_eq_none_iff, h]
    exact Option.some_ne_none _
  rw [split?, List.take_append_of_le_length hle, List.drop_append_of_le_length hle]
  rw [split?] at h
  split at h
  · rename_i htake
    cases h
    rw [if_pos htake]
  · cases h

end Bytes

end SpanIntake

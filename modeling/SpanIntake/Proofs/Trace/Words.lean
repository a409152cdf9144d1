/-
**Identifiers and the words they travel in.**

A span id travels in one 64-bit word and a trace id in two.  An identifier is made of words exactly
if they are its own, so that every identifier is read back from its words, and the word zero, which
stands for no identifier, belongs to none.

Main results:

* `SpanId.ofWord_eq_ok_iff`, `TraceId.ofHighLow_eq_ok_iff` — **the identifier of words is the one
  that has them**;
* `SpanId.toWord_ne_zero` — no span id has the word zero.
-/

import SpanIntake.Trace.Id

set_option relaxedAutoImplicit false
set_option autoImplicit false

namespace SpanIntake

/-! ### Bytes of a number -/

theorem Bytes.bigEndian_ofBigEndian {bs : Bytes} {k : Nat} (h : bs.length = k) :
    bigEndian k (ofBigEndian bs) = bs := by
  subst h
  rw [bigEndian, ofBigEndian, ← List.length_reverse, littleEndian_ofLittleEndian,
    List.reverse_reverse]

/-- The word of eight bytes is the number that they spell. -/
theorem Bytes.toNat_ofBigEndian {bs : Bytes} (h : bs.length = 8) :
    (UInt64.ofNat (ofBigEndian bs)).toNat = ofBigEndian bs := by
  have hlt := ofLittleEndian_lt bs.reverse
  rw [List.length_reverse, h] at hlt
  exact UInt64.toNat_ofNat_of_lt hlt

/-- A word and the eight bytes that spell it. -/
theorem Bytes.eq_bigEndian_iff {bs : Bytes} (h : bs.length = 8) {w : UInt64} :
    bs = bigEndian 8 w.toNat ↔ UInt64.ofNat (ofBigEndian bs) = w := by
  constructor
  · intro hbs
    have hlt : w.toNat < Nat.pow 256 8 := w.toNat_lt
    rw [hbs, ofBigEndian_bigEndian, Nat.mod_eq_of_lt hlt, UInt64.ofNat_toNat]
  · intro hw
    rw [← hw, toNat_ofBigEndian h, bigEndian_ofBigEndian h]

theorem Bytes.ofLittleEndian_eq_zero_iff {bs : Bytes} : ofLittleEndian bs = 0 ↔ ∀ b ∈ bs, b = 0 := by
  induction bs with
  | nil => simp [ofLittleEndian]
  | cons b rest ih =>
      rw [ofLittleEndian, List.forall_mem_cons, ← ih, ← UInt8.toNat_inj]
      show _ ↔ b.toNat = 0 ∧ _
      omega

/-- The number that bytes spell is zero only if all of them are. -/
theorem Bytes.ofBigEndian_ne_zero_iff {bs : Bytes} : ofBigEndian bs ≠ 0 ↔ ∃ b ∈ bs, b ≠ 0 := by
  rw [ofBigEndian, Ne, ofLittleEndian_eq_zero_iff]
  simp only [List.mem_reverse, Classical.not_forall, exists_prop]

/-- Only the word zero is spelled with zeros alone. -/
theorem Bytes.exists_ne_zero_iff {w : UInt64} : (∃ b ∈ bigEndian 8 w.toNat, b ≠ 0) ↔ w ≠ 0 := by
  have hlt : w.toNat < Nat.pow 256 8 := w.toNat_lt
  rw [← ofBigEndian_ne_zero_iff, ofBigEndian_bigEndian, Nat.mod_eq_of_lt hlt, Ne, Ne,
    ← UInt64.toNat_inj]
  rfl

/-! ### Identifiers -/

theorem Id.ofBytes_eq_ok_iff {k : IdKind} {bs : Bytes} {i : Id k} :
    ofBytes k bs = .ok i ↔ i.bytes = bs := by
  constructor
  · intro h
    unfold ofBytes at h
    split at h
    · split at h
      · cases h; rfl
      · cases h
    · cases h
  · intro h
    rw [← h, ofBytes_bytes]

/-- **The span id of a word is the one that has it.** -/
theorem SpanId.ofWord_eq_ok_iff {w : UInt64} {i : SpanId} :
    SpanId.ofWord w = .ok i ↔ SpanId.toWord i = w := by
  rw [SpanId.ofWord, Id.ofNat, Id.ofBytes_eq_ok_iff]
  exact Bytes.eq_bigEndian_iff i.size_eq

/-- **The trace id of two words is the one that has them.** -/
theorem TraceId.ofHighLow_eq_ok_iff {high low : UInt64} {i : TraceId} :
    TraceId.ofHighLow high low = .ok i ↔ TraceId.high i = high ∧ TraceId.low i = low := by
  have htake : (i.bytes.take 8).length = 8 := by rw [List.length_take, i.size_eq]; rfl
  have hdrop : (i.bytes.drop 8).length = 8 := by rw [List.length_drop, i.size_eq]; rfl
  rw [TraceId.ofHighLow, Id.ofBytes_eq_ok_iff, TraceId.high, TraceId.low,
    ← Bytes.eq_bigEndian_iff htake, ← Bytes.eq_bigEndian_iff hdrop]
  constructor
  · intro h
    rw [h, List.take_left' (Bytes.length_bigEndian 8 _), List.drop_left' (Bytes.length_bigEndian 8 _)]
    exact ⟨rfl, rfl⟩
  · rintro ⟨hhigh, hlow⟩
    rw [← hhigh, ← hlow, List.take_append_drop]

theorem SpanId.toWord_ne_zero (i : SpanId) : SpanId.toWord i ≠ 0 := by
  intro hzero
  have hbytes : i.bytes = Bytes.bigEndian 8 (0 : UInt64).toNat :=
    (Bytes.eq_bigEndian_iff i.size_eq).2 hzero
  have hne := i.ne_zero
  rw [hbytes] at hne
  exact absurd hne (by decide)

end SpanIntake

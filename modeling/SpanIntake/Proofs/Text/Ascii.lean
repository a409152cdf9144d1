/-
**The bytes of ASCII text.**

A character of ASCII is one byte, which is its number; the bytes of every other character have
their highest bit set.  So whether a text is ASCII is seen from its bytes, and then each byte is a
character.

Main definitions:

* `Utf8.IsAscii` — bytes with the highest bit clear.

Main results:

* `Utf8.encode_ofList` — the bytes of a text, character by character;
* `Utf8.isAscii_encode_iff` — which texts are bytes of ASCII;
* `Utf8.encode_ofList_of_ascii` — and what bytes these are.
-/

import SpanIntake.Text.Utf8

set_option relaxedAutoImplicit false
set_option autoImplicit false

namespace SpanIntake.Utf8

/-- Bytes with the highest bit clear. -/
def IsAscii (bs : Bytes) : Prop := ∀ b ∈ bs, b < 128

instance (bs : Bytes) : Decidable (IsAscii bs) :=
  inferInstanceAs (Decidable (∀ b ∈ bs, b < 128))

theorem encode_ofList (cs : List Char) :
    encode (String.ofList cs) = cs.flatMap String.utf8EncodeChar := by
  simp [encode, String.toUTF8, List.utf8Encode]

theorem encode_inj {s t : String} : encode s = encode t ↔ s = t := by
  constructor
  · intro h
    have hdecode := decode_encode s
    rw [h, decode_encode] at hdecode
    exact (Except.ok.inj hdecode).symm
  · rintro rfl
    rfl

/-- A character of ASCII is one byte. -/
theorem utf8EncodeChar_of_lt {c : Char} (h : c.toNat < 128) :
    String.utf8EncodeChar c = [UInt8.ofNat c.toNat] := by
  have hle : c.val.toNat ≤ 127 := Nat.le_of_lt_succ h
  simp only [String.utf8EncodeChar, hle, if_true]
  rfl

/-- A character that is not ASCII begins with a byte that is not. -/
theorem exists_mem_utf8EncodeChar {c : Char} (h : 128 ≤ c.toNat) :
    ∃ b ∈ String.utf8EncodeChar c, 128 ≤ b := by
  have hle : ¬ c.val.toNat ≤ 127 := Nat.not_le.2 h
  have hhigh (n m : Nat) (hn : 128 ≤ m) (hm : n + m < 256) : 128 ≤ UInt8.ofNat (n + m) := by
    rw [UInt8.le_iff_toNat_le, UInt8.toNat_ofNat', Nat.mod_eq_of_lt hm]
    show 128 ≤ n + m
    omega
  simp only [String.utf8EncodeChar, hle, if_false]
  split
  · exact ⟨_, List.mem_cons_self, hhigh _ _ (by decide) (by omega)⟩
  · split
    · exact ⟨_, List.mem_cons_self, hhigh _ _ (by decide) (by omega)⟩
    · exact ⟨_, List.mem_cons_self, hhigh _ _ (by decide) (by omega)⟩

/-- **Which texts are bytes of ASCII**: those of characters of ASCII. -/
theorem isAscii_encode_iff {cs : List Char} :
    IsAscii (encode (String.ofList cs)) ↔ ∀ c ∈ cs, c.toNat < 128 := by
  rw [encode_ofList]
  constructor
  · intro h c hc
    refine Nat.lt_of_not_le fun hge => ?_
    obtain ⟨b, hb, hhigh⟩ := exists_mem_utf8EncodeChar hge
    exact UInt8.not_le.2 (h b (List.mem_flatMap.2 ⟨c, hc, hb⟩)) hhigh
  · intro h b hb
    obtain ⟨c, hc, hmem⟩ := List.mem_flatMap.1 hb
    have hlt := h c hc
    rw [utf8EncodeChar_of_lt hlt, List.mem_singleton] at hmem
    subst hmem
    rw [UInt8.lt_iff_toNat_lt, UInt8.toNat_ofNat', Nat.mod_eq_of_lt (by omega)]
    exact hlt

/-- Text of ASCII is a byte for each character. -/
theorem encode_ofList_of_ascii {cs : List Char} (h : ∀ c ∈ cs, c.toNat < 128) :
    encode (String.ofList cs) = cs.map fun c => UInt8.ofNat c.toNat := by
  rw [encode_ofList]
  induction cs with
  | nil => rfl
  | cons c cs ih =>
      rw [List.flatMap_cons, utf8EncodeChar_of_lt (h c List.mem_cons_self),
        ih fun d hd => h d (List.mem_cons_of_mem c hd)]
      rfl

end SpanIntake.Utf8

/-
**Status codes in decimals.**

A status code may be sent as a text of decimal digits, with a sign or without one, and with blanks
around it.  It is read by way of a 64-bit word: where the integer fits one, the text counts like the
integer itself, so that a number without a code is the unknown code.  An integer that no word holds
is taken for a name instead.  It is no name either, and so it stays among the attributes as if it
meant nothing, and the error flag decides.

Main definitions:

* `Reserved.Denotes` — a text is decimal digits, perhaps behind a sign, that denote an integer;
* `Reserved.Lifted.TakesCode` — an integer has been lifted off as the status code.

Main results:

* `Reserved.int64?_eq_some_iff` — the texts that are read as integers;
* `Reserved.Denotes.interpretCode?` — what decimals mean as a status code;
* `Reserved.takesCode_iff_fitsInt64` — **decimals are lifted off as the status code exactly if their
  integer fits 64 bits**;
* `Reserved.not_takesCode_of_denotes` — so not all of them are.
-/

import SpanIntake.Proofs.Time.Micros
import SpanIntake.Proofs.Trace.Partition

set_option relaxedAutoImplicit false
set_option autoImplicit false

namespace SpanIntake

namespace Reserved

/-! ### Decimals -/

/-- Decimal digits, at least one. -/
structure Digits (ds : List Char) : Prop where
  /-- There is a digit. -/
  ne_nil : ds ≠ []
  /-- All are digits. -/
  all : ∀ c ∈ ds, c.isDigit = true

/-- The integer of digits behind a sign. -/
def signed (negative : Bool) (ds : List Char) : Int :=
  if negative then -(Nat.ofDigitChars 10 ds 0 : Int) else Nat.ofDigitChars 10 ds 0

/-- A text is decimal digits, perhaps behind a sign, that denote an integer. -/
inductive Denotes : List Char → Int → Prop
  | plain {ds : List Char} (h : Digits ds) : Denotes ds (signed false ds)
  | plus {ds : List Char} (h : Digits ds) : Denotes ('+' :: ds) (signed false ds)
  | minus {ds : List Char} (h : Digits ds) : Denotes ('-' :: ds) (signed true ds)

/-- The integer of digits behind a sign, within 64 bits. -/
def signed? (negative : Bool) (ds : List Char) : Option Int :=
  if ds.isEmpty ∨ ¬ ds.all Char.isDigit then none
  else if fitsInt64 (signed negative ds) then some (signed negative ds) else none

theorem signed?_eq_some_iff {negative : Bool} {ds : List Char} {n : Int} :
    signed? negative ds = some n ↔
      Digits ds ∧ signed negative ds = n ∧ fitsInt64 n = true := by
  have hnot : (ds.isEmpty ∨ ¬ ds.all Char.isDigit) ↔ ¬ Digits ds := by
    rw [← not_iff_not, not_or, not_not, not_not, List.isEmpty_iff, List.all_eq_true]
    exact ⟨fun h => ⟨h.1, h.2⟩, fun h => ⟨h.ne_nil, h.all⟩⟩
  rw [signed?]
  by_cases hds : Digits ds
  · rw [if_neg fun h => hnot.1 h hds, Option.ite_none_right_eq_some, Option.some.injEq]
    constructor
    · rintro ⟨hfits, rfl⟩
      exact ⟨hds, rfl, hfits⟩
    · rintro ⟨-, rfl, hfits⟩
      exact ⟨hfits, rfl⟩
  · rw [if_pos (hnot.2 hds)]
    constructor
    · intro h
      cases h
    · rintro ⟨h, -⟩
      exact absurd h hds

theorem int64?_eq (s : String) :
    int64? s =
      match s.toList with
      | '-' :: ds => signed? true ds
      | '+' :: ds => signed? false ds
      | ds => signed? false ds := rfl

theorem Digits.isDigit_head {c : Char} {ds : List Char} (h : Digits (c :: ds)) :
    c.isDigit = true :=
  h.all c List.mem_cons_self

/-- **Decimals within 64 bits are read as their integer, and nothing else is read as one.** -/
theorem int64?_eq_some_iff {s : String} {n : Int} :
    int64? s = some n ↔ Denotes s.toList n ∧ fitsInt64 n = true := by
  rw [int64?_eq]
  split
  case h_1 ds heq =>
    rw [heq, signed?_eq_some_iff]
    constructor
    · rintro ⟨hds, rfl, hfits⟩
      exact ⟨.minus hds, hfits⟩
    · rintro ⟨hn, hfits⟩
      cases hn with
      | plain h => exact absurd h.isDigit_head (by decide)
      | minus h => exact ⟨h, rfl, hfits⟩
  case h_2 ds heq =>
    rw [heq, signed?_eq_some_iff]
    constructor
    · rintro ⟨hds, rfl, hfits⟩
      exact ⟨.plus hds, hfits⟩
    · rintro ⟨hn, hfits⟩
      cases hn with
      | plain h => exact absurd h.isDigit_head (by decide)
      | plus h => exact ⟨h, rfl, hfits⟩
  case h_3 hminus hplus =>
    rw [signed?_eq_some_iff]
    constructor
    · rintro ⟨hds, rfl, hfits⟩
      exact ⟨.plain hds, hfits⟩
    · rintro ⟨hn, hfits⟩
      generalize s.toList = cs at hn hminus hplus
      cases hn with
      | plain h => exact ⟨h, rfl, hfits⟩
      | plus h => exact absurd rfl (hplus _)
      | minus h => exact absurd rfl (hminus _)

theorem Denotes.exists_isDigit {cs : List Char} {n : Int} (h : Denotes cs n) :
    ∃ c ∈ cs, c.isDigit = true := by
  have hhead : ∀ {ds : List Char}, Digits ds → ∃ c ∈ ds, c.isDigit = true := by
    intro ds hds
    obtain ⟨c, cs, rfl⟩ := List.exists_cons_of_ne_nil hds.ne_nil
    exact ⟨c, List.mem_cons_self, hds.isDigit_head⟩
  cases h with
  | plain h => exact hhead h
  | plus h | minus h =>
      obtain ⟨c, hc, hdigit⟩ := hhead h
      exact ⟨c, List.mem_cons_of_mem _ hc, hdigit⟩

/-- Decimals denote one integer. -/
theorem Denotes.eq {cs : List Char} {m n : Int} (hm : Denotes cs m) (hn : Denotes cs n) :
    m = n := by
  cases hm with
  | plain h =>
      cases hn with
      | plain _ => rfl
      | plus _ | minus _ => exact absurd h.isDigit_head (by decide)
  | plus _ =>
      cases hn with
      | plain h => exact absurd h.isDigit_head (by decide)
      | plus _ => rfl
  | minus _ =>
      cases hn with
      | plain h => exact absurd h.isDigit_head (by decide)
      | minus _ => rfl

/-! ### Numbers and names of codes -/

end Reserved

namespace StatusCode

/-- A number has the code that has it. -/
theorem ofCode?_eq_some_iff {n : Int} {c : StatusCode} : ofCode? n = some c ↔ (c.code : Int) = n := by
  constructor
  · intro h
    rw [ofCode?, Option.ite_none_right_eq_some, Option.map_eq_some_iff] at h
    obtain ⟨hn, ⟨c', name⟩, hentry, rfl⟩ := h
    have hnumber : ∀ k : Fin table.length, (table.get k).1.code = k.val := by decide
    obtain ⟨hlt, hget⟩ := List.getElem?_eq_some_iff.1 hentry
    have hcode := hnumber ⟨n.toNat, hlt⟩
    rw [List.get_eq_getElem, hget] at hcode
    dsimp only at hcode ⊢
    omega
  · rintro rfl
    exact ofCode?_code c

theorem code_lt (c : StatusCode) : c.code < 17 := by
  cases c <;> decide

/-- A text with a digit is no name of a code. -/
theorem ofName?_eq_none_of_isDigit {s : String} {c : Char} (hc : c ∈ s.toList)
    (h : c.isDigit = true) : ofName? s = none := by
  have hnames : table.all (fun entry => entry.2.toList.all fun d => !d.isDigit) = true := by decide
  have hupper : c.toUpper = c := by
    have hrange := Char.isDigit_iff_toNat.1 h
    have hletters : '9'.toNat < 'a'.toNat := by decide
    refine dif_neg fun hlower => ?_
    have hle := UInt32.le_iff_toNat_le.1 hlower.1
    simp only [Char.toNat] at hrange hletters
    omega
  rw [ofName?, Option.map_eq_none_iff, List.find?_eq_none]
  intro entry hentry heq
  have hmem : c ∈ entry.2.toList := by
    rw [beq_iff_eq.1 heq, foldCase, String.toList_ofList, List.mem_map]
    exact ⟨c, hc, hupper⟩
  have hletter := List.all_eq_true.1 (List.all_eq_true.1 hnames entry hentry) c hmem
  rw [h] at hletter
  cases hletter

end StatusCode

namespace Reserved

/-- **Decimals mean the code of their integer if it fits 64 bits**, the unknown code where it has
none; beyond 64 bits they mean nothing. -/
theorem interpretCode?_of_denotes {s : String} {n : Int} (h : Denotes (Blank.trim s).toList n) :
    interpretCode? (.text s) = if fitsInt64 n then some (codeOrUnknown n) else none := by
  rw [interpretCode?]
  split_ifs with hfits
  · rw [int64?_eq_some_iff.2 ⟨h, hfits⟩]
  · have hnone : int64? (Blank.trim s) = none := by
      rw [Option.eq_none_iff_forall_ne_some]
      intro m hm
      obtain ⟨hdenotes, hfits'⟩ := int64?_eq_some_iff.1 hm
      obtain rfl := hdenotes.eq h
      exact hfits hfits'
    obtain ⟨c, hc, hdigit⟩ := h.exists_isDigit
    rw [hnone]
    exact StatusCode.ofName?_eq_none_of_isDigit hc hdigit

/-! ### Lifting decimals -/

/-- An integer has been lifted off as the status code. -/
structure Lifted.TakesCode (l : Lifted) (n : Int) : Prop where
  /-- The attribute is gone. -/
  out : l.attributes.get? statusCode = none
  /-- The number of a code gives that code. -/
  listed : ∀ c : StatusCode, (c.code : Int) = n → l.status.code = c
  /-- Any other number gives the unknown code. -/
  unlisted : n < 0 ∨ 16 < n → l.status.code = .unknown

theorem codeOrUnknown_code (c : StatusCode) : codeOrUnknown c.code = c := by
  rw [codeOrUnknown, StatusCode.ofCode?_code]
  rfl

theorem codeOrUnknown_of_unlisted {n : Int} (h : n < 0 ∨ 16 < n) : codeOrUnknown n = .unknown := by
  have hnone : StatusCode.ofCode? n = none := by
    rw [Option.eq_none_iff_forall_ne_some]
    intro c hc
    have hcode := StatusCode.ofCode?_eq_some_iff.1 hc
    have hlt := c.code_lt
    omega
  rw [codeOrUnknown, hnone]
  rfl

theorem takesCode_of_eq {l : Lifted} {n : Int} (hout : l.attributes.get? statusCode = none)
    (hcode : l.status.code = codeOrUnknown n) : l.TakesCode n := by
  refine ⟨hout, ?_, ?_⟩
  · rintro c rfl
    rw [hcode, codeOrUnknown_code]
  · intro h
    rw [hcode, codeOrUnknown_of_unlisted h]

/-- A code that can be interpreted may be replaced by a value that means the same. -/
theorem lift_insert_statusCode {a : Attributes} {v w : AttributeValue} {c : StatusCode}
    (hget : a.get? statusCode = some v) (hv : interpretCode? v = some c)
    (hw : interpretCode? w = some c) : lift (a.insert statusCode w) = lift a := by
  have hother : ∀ key, key ≠ statusCode → (a.insert statusCode w).get? key = a.get? key := by
    intro key hkey
    rw [Attributes.get?_insert, if_neg hkey]
  have hcode : code? (a.insert statusCode w) = code? a := by
    rw [code?_of_get? hget, hv, code?, Attributes.get?_insert, if_pos rfl, Option.bind_some, hw]
  have hmessage : message (a.insert statusCode w) = message a := by
    rw [message, hother _ (by decide), message]
  have hkind : kind? (a.insert statusCode w) = kind? a := by
    rw [kind?, hother _ (by decide), kind?]
  have hleftover : leftover (a.insert statusCode w) = leftover a := by
    refine Attributes.ext_get? fun key => ?_
    rw [get?_leftover, get?_leftover, hcode, hkind]
    by_cases hkey : key = statusCode
    · have hsome : (code? a).isSome = true := by rw [code?_of_get? hget, hv]; rfl
      rw [if_pos (.inr (.inr ⟨hkey, hsome⟩)), if_pos (.inr (.inr ⟨hkey, hsome⟩))]
    · rw [hother key hkey]
  have hcodeOf : codeOf (a.insert statusCode w) = codeOf a := by
    rw [codeOf, hcode, isFlagged, hother _ (by decide), codeOf, isFlagged]
  rw [lift_eq, lift_eq, hcodeOf, hmessage, hkind, hleftover]

/-- **Decimals are lifted off as the status code exactly if their integer fits 64 bits.**  Then they
count like the integer itself.  Otherwise they stay, and the error flag decides. -/
theorem takesCode_iff_fitsInt64 {a : Attributes} {s : String} {n : Int}
    (hget : a.get? statusCode = some (.text s)) (hn : Denotes (Blank.trim s).toList n) :
    ((lift a).TakesCode n ↔ fitsInt64 n = true) ∧
    (fitsInt64 n = true → lift a = lift (a.insert statusCode (.int (Int64.ofInt n)))) ∧
    (fitsInt64 n = false → (lift a).attributes.get? statusCode = some (.text s) ∧
      (lift a).status.code = if isFlagged a then .unknown else .ok) := by
  have hinterpret := interpretCode?_of_denotes hn
  have hsplits := splits_lift a
  have hstays : fitsInt64 n = false → (lift a).attributes.get? statusCode = some (.text s) := by
    intro hfits
    rw [hfits, if_neg Bool.false_ne_true] at hinterpret
    cases hleft : (lift a).attributes.get? statusCode with
    | none =>
        obtain ⟨c, hc⟩ := (hsplits.code_out _ hget).1 hleft
        rw [hinterpret] at hc
        cases hc
    | some v =>
        rw [← hget, hsplits.old _ _ hleft]
  refine ⟨⟨fun htakes => ?_, fun hfits => ?_⟩, fun hfits => ?_, fun hfits => ⟨hstays hfits, ?_⟩⟩
  · refine Bool.of_not_eq_false fun hfits => ?_
    have hleft := hstays hfits
    rw [htakes.out] at hleft
    cases hleft
  · rw [if_pos hfits] at hinterpret
    exact takesCode_of_eq ((hsplits.code_out _ hget).2 ⟨_, hinterpret⟩)
      (hsplits.code_stated _ _ hget hinterpret)
  · rw [if_pos hfits] at hinterpret
    refine (lift_insert_statusCode hget hinterpret ?_).symm
    rw [interpretCode?, toInt_ofInt_of_fitsInt64 hfits]
  · rw [hfits, if_neg Bool.false_ne_true] at hinterpret
    refine hsplits.code_flagged fun v hv => ?_
    rw [hget] at hv
    obtain rfl := Option.some.inj hv
    exact hinterpret

/-- Attributes with a status code in a text. -/
def coded (s : String) : Attributes := .ofList [(statusCode, .text s)]

theorem denotes_padded : Denotes (Blank.trim " +0014\u3000").toList 14 := by
  have htrim : (Blank.trim " +0014\u3000").toList = '+' :: ['0', '0', '1', '4'] := by decide
  rw [htrim]
  exact .plus ⟨by decide, List.all_eq_true.1 (by decide)⟩

theorem denotes_beyond :
    Denotes (Blank.trim "-9223372036854775809").toList (-9223372036854775809) := by
  have htrim : (Blank.trim "-9223372036854775809").toList =
      '-' :: "9223372036854775809".toList := by decide
  rw [htrim]
  exact .minus ⟨by decide, List.all_eq_true.1 (by decide)⟩

/-- **Not all decimals are lifted off.** -/
theorem not_takesCode_of_denotes :
    ¬ ∀ (a : Attributes) (s : String) (n : Int), a.get? statusCode = some (.text s) →
      Denotes (Blank.trim s).toList n → (lift a).TakesCode n := by
  intro h
  have hout := (h (coded "-9223372036854775809") _ _ rfl denotes_beyond).out
  exact absurd hout (by decide)

/-- A sign, zeros in front and blanks do not matter; one beyond the least word does. -/
theorem takesCode_iff_fitsInt64_paddedCode :
    ((coded " +0014\u3000").get? statusCode = some (.text " +0014\u3000") ∧
      Denotes (Blank.trim " +0014\u3000").toList 14 ∧
      (lift (coded " +0014\u3000")).TakesCode 14 ∧
      (lift (coded " +0014\u3000")).status.code = .unavailable) ∧
    (coded "-9223372036854775809").get? statusCode = some (.text "-9223372036854775809") ∧
      Denotes (Blank.trim "-9223372036854775809").toList (-9223372036854775809) ∧
      ¬ (lift (coded "-9223372036854775809")).TakesCode (-9223372036854775809) ∧
      (lift (coded "-9223372036854775809")).status.code = .ok := by
  have hpadded := takesCode_iff_fitsInt64 (a := coded " +0014\u3000") rfl denotes_padded
  have hbeyond := takesCode_iff_fitsInt64 (a := coded "-9223372036854775809") rfl denotes_beyond
  have htakes := hpadded.1.2 (by decide)
  exact ⟨⟨rfl, denotes_padded, htakes, htakes.listed .unavailable rfl⟩, rfl, denotes_beyond,
    fun h => absurd (hbeyond.1.1 h) (by decide), (hbeyond.2.2 (by decide)).2⟩

end Reserved

end SpanIntake

/-
**Timeouts in machine words.**

The text of a timeout is bytes, and its number a word.  Here it is read as a machine reads it: the
last byte is cut off, though the cut might fall into a character, and the digits in front are taken
for a word of 64 bits, multiplied by the seconds of their unit, though neither might fit.  None of
this ever happens.  What is cut is ASCII, eight digits fit into a word, and so many hours are few
seconds.

Main definitions:

* `Grpc.Words.Fault` — what stops a machine;
* `Grpc.Words.Duration` — a length of time in words;
* `Grpc.Words.timeout` — the timeout of a text.

Main results:

* `Grpc.Words.cut_of_isAscii` — text of ASCII can be cut anywhere;
* `Grpc.Words.number?_eq`, `Grpc.Words.inUnit_letter` — up to eight digits fit, in any unit;
* `Grpc.Words.timeout_eq` — **no text leads to a fault**, and what is read is exact.
-/

import SpanIntake.Proofs.Grpc.Timeout
import SpanIntake.Proofs.Text.Ascii

set_option relaxedAutoImplicit false
set_option autoImplicit false

namespace SpanIntake.Grpc.Words

/-! ### Reading in words -/

/-- What stops a machine. -/
inductive Fault where
  /-- A text is cut inside a character. -/
  | insideCharacter
  /-- A number does not fit into its word. -/
  | overflow
  deriving DecidableEq

/-- A product of words. -/
def mul (a b : UInt64) : Except Fault UInt64 :=
  if a.toNat * b.toNat < UInt64.size then .ok (a * b) else .error .overflow

/-- Whether a character begins at a place of a text, or the text ends there. -/
def boundary (bs : Bytes) (i : Nat) : Bool :=
  i == 0 || i == bs.length || bs[i]?.any fun b => b < 128 || 192 ≤ b

/-- The two parts of a text that is cut at a place. -/
def cut (bs : Bytes) (i : Nat) : Except Fault (Bytes × Bytes) :=
  if boundary bs i then .ok (bs.take i, bs.drop i) else .error .insideCharacter

/-- Whether a byte is a digit. -/
def isDigit (b : UInt8) : Bool := 48 ≤ b && b ≤ 57

/-- A word with a further digit, if that fits. -/
def push? (n : UInt64) (b : UInt8) : Option UInt64 :=
  if isDigit b ∧ n.toNat * 10 + (b.toNat - 48) < UInt64.size then
    some (n * 10 + UInt64.ofNat (b.toNat - 48))
  else none

/-- The word that digits write, perhaps behind a plus sign, if it fits. -/
def number? (bs : Bytes) : Option UInt64 :=
  let ds := if bs.head? = some 43 then bs.tail else bs
  if ds = [] then none else ds.foldlM push? 0

/-- A length of time in words. -/
structure Duration where
  /-- Whole seconds. -/
  seconds : UInt64
  /-- The nanoseconds beyond them. -/
  nanos : UInt32
  nanos_lt : nanos.toNat < 1000000000

namespace Duration

/-- The period of a length of time. -/
def period (d : Duration) : Period := ⟨d.seconds.toNat * 1000000000 + d.nanos.toNat⟩

/-- A number of seconds. -/
def ofSeconds (n : UInt64) : Duration := ⟨n, 0, by decide⟩

theorem toNat_nanos_ofParts {parts : UInt64} {scale : UInt32}
    (h : parts.toNat * scale.toNat = 1000000000) (n : UInt64) :
    ((n % parts).toUInt32 * scale).toNat = n.toNat % parts.toNat * scale.toNat ∧
      n.toNat % parts.toNat * scale.toNat < 1000000000 := by
  have hparts : 0 < parts.toNat := Nat.pos_of_ne_zero fun hzero => by simp [hzero] at h
  have hscale : 0 < scale.toNat := Nat.pos_of_ne_zero fun hzero => by simp [hzero] at h
  have hmod : n.toNat % parts.toNat < parts.toNat := Nat.mod_lt _ hparts
  have hle : parts.toNat ≤ 1000000000 := h ▸ Nat.le_mul_of_pos_right _ hscale
  have hlt : n.toNat % parts.toNat * scale.toNat < 1000000000 :=
    h ▸ Nat.mul_lt_mul_of_pos_right hmod hscale
  refine ⟨?_, hlt⟩
  rw [UInt32.toNat_mul, UInt64.toNat_toUInt32, UInt64.toNat_mod]
  rw [Nat.mod_eq_of_lt (a := n.toNat % parts.toNat) (by omega), Nat.mod_eq_of_lt (by omega)]

/-- A number of parts of a second: so many parts make one, each of so many nanoseconds. -/
def ofParts (parts : UInt64) (scale : UInt32) (h : parts.toNat * scale.toNat = 1000000000)
    (n : UInt64) : Duration where
  seconds := n / parts
  nanos := (n % parts).toUInt32 * scale
  nanos_lt := by
    obtain ⟨heq, hlt⟩ := toNat_nanos_ofParts h n
    omega

/-- A number of milliseconds. -/
def ofMillis (n : UInt64) : Duration := ofParts 1000 1000000 (by decide) n

/-- A number of microseconds. -/
def ofMicros (n : UInt64) : Duration := ofParts 1000000 1000 (by decide) n

/-- A number of nanoseconds. -/
def ofNanos (n : UInt64) : Duration := ofParts 1000000000 1 (by decide) n

theorem period_ofSeconds (n : UInt64) : (ofSeconds n).period = ⟨n.toNat * 1000000000⟩ := by
  simp [period, ofSeconds]

/-- **Parts of a second are exact.** -/
theorem period_ofParts {parts : UInt64} {scale : UInt32}
    (h : parts.toNat * scale.toNat = 1000000000) (n : UInt64) :
    (ofParts parts scale h n).period = ⟨n.toNat * scale.toNat⟩ := by
  rw [period, ofParts, (toNat_nanos_ofParts h n).1, UInt64.toNat_div, ← h, ← Nat.mul_assoc,
    ← Nat.add_mul, Nat.mul_comm _ parts.toNat, Nat.div_add_mod]

end Duration

/-- Bytes that are one character. -/
def IsChar (bs : Bytes) (c : Char) : Prop := bs = Utf8.encode (String.ofList [c])

instance (bs : Bytes) (c : Char) : Decidable (IsChar bs c) :=
  inferInstanceAs (Decidable (bs = Utf8.encode (String.ofList [c])))

/-- The length of time that a number means in a unit. -/
def inUnit (unit : Bytes) (n : UInt64) : Except Fault (Option Duration) :=
  if IsChar unit 'H' then (mul n 3600).map fun m => some (.ofSeconds m)
  else if IsChar unit 'M' then (mul n 60).map fun m => some (.ofSeconds m)
  else if IsChar unit 'S' then .ok (some (.ofSeconds n))
  else if IsChar unit 'm' then .ok (some (.ofMillis n))
  else if IsChar unit 'u' then .ok (some (.ofMicros n))
  else if IsChar unit 'n' then .ok (some (.ofNanos n))
  else .ok none

/-- The timeout of a text whose digits stand apart from its unit. -/
def ofCut : Bytes × Bytes → Except Fault (Option Duration)
  | (ds, unit) =>
    if 8 < ds.length ∨ ¬ ds.all isDigit then .ok none
    else
      match number? ds with
      | none => .ok none
      | some n => inUnit unit n

/-- The timeout of a text.  The last byte is the unit. -/
def timeout (s : String) : Except Fault (Option Duration) :=
  let raw := Utf8.encode (Blank.trim s)
  if raw.length < 2 ∨ ¬ Utf8.IsAscii raw then .ok none
  else
    match raw.length with
    | 0 => .error .overflow
    | last + 1 => (cut raw last).bind ofCut

/-! ### No fault -/

/-- **Text of ASCII can be cut anywhere.** -/
theorem cut_of_isAscii {bs : Bytes} (h : Utf8.IsAscii bs) {i : Nat} (hi : i ≤ bs.length) :
    cut bs i = .ok (bs.take i, bs.drop i) := by
  have hboundary : boundary bs i = true := by
    rcases Nat.lt_or_eq_of_le hi with hlt | rfl
    · have hb : bs[i] < 128 := h _ (List.getElem_mem hlt)
      simp [boundary, List.getElem?_eq_getElem hlt, hb]
    · simp [boundary]
  rw [cut, if_pos hboundary]

/-- The byte of a character is a digit exactly if the character is. -/
theorem isDigit_ofNat {c : Char} (h : c.toNat < 128) :
    isDigit (UInt8.ofNat c.toNat) = c.isDigit := by
  have hbyte : (UInt8.ofNat c.toNat).toNat = c.toNat := by
    rw [UInt8.toNat_ofNat', Nat.mod_eq_of_lt (by omega)]
  have hchar : c.val.toNat = c.toNat := rfl
  simp [isDigit, Char.isDigit, UInt8.le_iff_toNat_le, UInt32.le_iff_toNat_le, hbyte, hchar]

/-- One more digit keeps a word below the next power of ten. -/
theorem push?_eq {n : UInt64} {c : Char} {k : Nat} (hc : c.isDigit = true) (hk : k < 8)
    (hn : n.toNat < Nat.pow 10 k) :
    ∃ m, push? n (UInt8.ofNat c.toNat) = some m ∧
      m.toNat = 10 * n.toNat + (c.toNat - '0'.toNat) ∧ m.toNat < Nat.pow 10 (k + 1) := by
  obtain ⟨hlow, hhigh⟩ : 48 ≤ c.toNat ∧ c.toNat ≤ 57 := Char.isDigit_iff_toNat.1 hc
  have hbyte : (UInt8.ofNat c.toNat).toNat = c.toNat := by
    rw [UInt8.toNat_ofNat', Nat.mod_eq_of_lt (by omega)]
  have hpow : Nat.pow 10 k ≤ Nat.pow 10 7 := Nat.pow_le_pow_right (by decide) (by omega)
  have hseven : Nat.pow 10 7 = 10000000 := by decide
  have hsize : UInt64.size = 18446744073709551616 := rfl
  have hdigit : isDigit (UInt8.ofNat c.toNat) = true := by rw [isDigit_ofNat (by omega), hc]
  have hnext : Nat.pow 10 (k + 1) = Nat.pow 10 k * 10 := rfl
  have hzero : '0'.toNat = 48 := rfl
  refine ⟨_, if_pos ⟨hdigit, by omega⟩, ?_⟩
  have hvalue : (n * 10 + UInt64.ofNat ((UInt8.ofNat c.toNat).toNat - 48)).toNat =
      10 * n.toNat + (c.toNat - '0'.toNat) := by
    rw [hbyte, hzero, UInt64.toNat_add, UInt64.toNat_mul, UInt64.toNat_ofNat']
    show (n.toNat * 10 % 18446744073709551616 + (c.toNat - 48) % 18446744073709551616) %
      18446744073709551616 = _
    omega
  exact ⟨hvalue, by omega⟩

/-- Digits are read one by one.  After so many of them the word is below that power of ten. -/
theorem foldlM_push? {ds : List Char} (hds : ∀ c ∈ ds, c.isDigit = true) {n : UInt64} {k : Nat}
    (hk : k + ds.length ≤ 8) (hn : n.toNat < Nat.pow 10 k) :
    ∃ m, (ds.map fun c => UInt8.ofNat c.toNat).foldlM push? n = some m ∧
      m.toNat = Nat.ofDigitChars 10 ds n.toNat ∧ m.toNat < Nat.pow 10 8 := by
  induction ds generalizing n k with
  | nil =>
      have hpow : Nat.pow 10 k ≤ Nat.pow 10 8 := Nat.pow_le_pow_right (by decide) hk
      exact ⟨n, rfl, Nat.ofDigitChars_nil.symm, Nat.lt_of_lt_of_le hn hpow⟩
  | cons c ds ih =>
      rw [List.length_cons] at hk
      obtain ⟨m, hm, hvalue, hlt⟩ := push?_eq (hds c List.mem_cons_self) (by omega) hn
      rw [List.map_cons, List.foldlM_cons, hm, Nat.ofDigitChars_cons, ← hvalue]
      exact ih (fun d hd => hds d (List.mem_cons_of_mem c hd)) (by omega) hlt

/-- **Up to eight digits fit into a word**, and there is no sign among them. -/
theorem number?_eq {ds : List Char} (hds : ∀ c ∈ ds, c.isDigit = true) (hne : ds ≠ [])
    (hlength : ds.length ≤ 8) :
    ∃ m, number? (ds.map fun c => UInt8.ofNat c.toNat) = some m ∧
      m.toNat = Nat.ofDigitChars 10 ds 0 ∧ m.toNat < Nat.pow 10 8 := by
  cases ds with
  | nil => exact absurd rfl hne
  | cons c ds =>
      have hsign : UInt8.ofNat c.toNat ≠ 43 := by
        obtain ⟨hlow, hhigh⟩ : 48 ≤ c.toNat ∧ c.toNat ≤ 57 :=
          Char.isDigit_iff_toNat.1 (hds c List.mem_cons_self)
        intro heq
        have hnat : (UInt8.ofNat c.toNat).toNat = 43 := by rw [heq]; rfl
        rw [UInt8.toNat_ofNat'] at hnat
        omega
      have hfold := foldlM_push? hds (n := 0) (k := 0) (by omega) (by decide)
      rw [List.map_cons] at hfold ⊢
      simpa [number?, hsign] using hfold

theorem mul_eq_ok {a b : UInt64} (h : a.toNat * b.toNat < UInt64.size) :
    ∃ m, mul a b = .ok m ∧ m.toNat = a.toNat * b.toNat := by
  refine ⟨a * b, if_pos h, ?_⟩
  rw [UInt64.toNat_mul]
  exact Nat.mod_eq_of_lt h

theorem isChar_encode_iff {c d : Char} :
    IsChar (Utf8.encode (String.ofList [c])) d ↔ c = d := by
  rw [IsChar, Utf8.encode_inj, String.ofList_inj, List.singleton_inj]

/-- **Eight digits of any unit are a length of time.** -/
theorem inUnit_letter {n : UInt64} (hn : n.toNat < Nat.pow 10 8) (u : TimeoutUnit) :
    ∃ d, inUnit (Utf8.encode (String.ofList [u.letter])) n = .ok (some d) ∧
      d.period = ⟨n.toNat * u.nanos⟩ := by
  have hpow : Nat.pow 10 8 = 100000000 := by decide
  have hsize : UInt64.size = 18446744073709551616 := rfl
  have hours : n.toNat * (3600 : UInt64).toNat < UInt64.size := by
    show n.toNat * 3600 < UInt64.size
    omega
  have minutes : n.toNat * (60 : UInt64).toNat < UInt64.size := by
    show n.toNat * 60 < UInt64.size
    omega
  simp only [inUnit, isChar_encode_iff]
  cases u with
  | hour =>
      obtain ⟨m, hm, hvalue⟩ := mul_eq_ok hours
      refine ⟨.ofSeconds m, by rw [if_pos (by decide), hm]; rfl, ?_⟩
      rw [Duration.period_ofSeconds, hvalue, Nat.mul_assoc]
      rfl
  | minute =>
      obtain ⟨m, hm, hvalue⟩ := mul_eq_ok minutes
      refine ⟨.ofSeconds m, by rw [if_neg (by decide), if_pos (by decide), hm]; rfl, ?_⟩
      rw [Duration.period_ofSeconds, hvalue, Nat.mul_assoc]
      rfl
  | second => exact ⟨.ofSeconds n, rfl, Duration.period_ofSeconds n⟩
  | millisecond => exact ⟨.ofMillis n, rfl, Duration.period_ofParts _ n⟩
  | microsecond => exact ⟨.ofMicros n, rfl, Duration.period_ofParts _ n⟩
  | nanosecond => exact ⟨.ofNanos n, rfl, Duration.period_ofParts _ n⟩

/-- No other letter is a unit. -/
theorem inUnit_of_ofLetter?_eq_none {c : Char} (h : TimeoutUnit.ofLetter? c = none) (n : UInt64) :
    inUnit (Utf8.encode (String.ofList [c])) n = .ok none := by
  simp only [inUnit, isChar_encode_iff]
  grind [TimeoutUnit.ofLetter?]

/-- What is read of digits and a last character. -/
theorem ofCut_eq {ds : List Char} (hne : ds ≠ []) (hascii : ∀ c ∈ ds, c.toNat < 128) (c : Char) :
    ∃ o, ofCut (ds.map fun c => UInt8.ofNat c.toNat, Utf8.encode (String.ofList [c])) = .ok o ∧
      o.map Duration.period =
        if 1 ≤ ds.length ∧ ds.length ≤ 8 ∧ ds.all Char.isDigit then
          (TimeoutUnit.ofLetter? c).map fun u => ⟨digitsValue ds * u.nanos⟩ else none := by
  have hdigits : (ds.map fun c => UInt8.ofNat c.toNat).all isDigit = ds.all Char.isDigit := by
    rw [List.all_map, Bool.eq_iff_iff, List.all_eq_true, List.all_eq_true]
    exact forall₂_congr fun c hc => by rw [Function.comp_apply, isDigit_ofNat (hascii c hc)]
  have hpos : 1 ≤ ds.length := List.length_pos_iff.2 hne
  rw [ofCut, List.length_map, hdigits]
  by_cases hds : ds.length ≤ 8 ∧ ds.all Char.isDigit
  case neg =>
    refine ⟨none, if_pos ?_, ?_⟩
    · rcases Decidable.not_and_iff_or_not.1 hds with hlength | hall
      · exact .inl (Nat.lt_of_not_le hlength)
      · exact .inr hall
    · rw [if_neg fun h => hds h.2]
      rfl
  case pos =>
    obtain ⟨n, hn, hvalue, hlt⟩ := number?_eq (List.all_eq_true.1 hds.2) hne hds.1
    rw [if_neg (by simpa using hds), if_pos ⟨hpos, hds⟩, hn, digitsValue_eq, ← hvalue]
    cases hu : TimeoutUnit.ofLetter? c with
    | none => exact ⟨none, inUnit_of_ofLetter?_eq_none hu n, rfl⟩
    | some u =>
        obtain rfl := TimeoutUnit.letter_of_ofLetter? hu
        obtain ⟨d, hd, hperiod⟩ := inUnit_letter hlt u
        exact ⟨some d, hd, by rw [Option.map_some, hperiod, Option.map_some]⟩

/-- A text of ASCII is cut in front of its last character. -/
theorem timeout_of_trimmed {s : String} {ds : List Char} {c : Char}
    (h : Blank.trimChars s.toList = ds ++ [c]) (hne : ds ≠ [])
    (hascii : ∀ d ∈ ds ++ [c], d.toNat < 128) :
    timeout s = ofCut (ds.map fun c => UInt8.ofNat c.toNat, Utf8.encode (String.ofList [c])) := by
  have hraw : Utf8.encode (Blank.trim s) = Utf8.encode (String.ofList (ds ++ [c])) := by
    rw [Blank.trim, h]
  have hclear : Utf8.IsAscii (Utf8.encode (Blank.trim s)) := by
    rw [hraw, Utf8.isAscii_encode_iff]
    exact hascii
  have hlast : Utf8.encode (String.ofList [c]) = [UInt8.ofNat c.toNat] :=
    Utf8.encode_ofList_of_ascii fun d hd => hascii d (List.mem_append_right ds hd)
  have hbytes : Utf8.encode (Blank.trim s) =
      (ds.map fun c => UInt8.ofNat c.toNat) ++ Utf8.encode (String.ofList [c]) := by
    rw [hraw, Utf8.encode_ofList_of_ascii hascii, List.map_append, hlast]
    rfl
  have hlength : (Utf8.encode (Blank.trim s)).length = ds.length + 1 := by
    rw [hbytes, hlast, List.length_append, List.length_map]
    rfl
  have hpos : 0 < ds.length := List.length_pos_iff.2 hne
  have hcut : cut (Utf8.encode (Blank.trim s)) ds.length =
      .ok (ds.map fun c => UInt8.ofNat c.toNat, Utf8.encode (String.ofList [c])) := by
    rw [cut_of_isAscii hclear (by omega), hbytes, List.take_left' (List.length_map _),
      List.drop_left' (List.length_map _)]
  have hstart : ¬ ((Utf8.encode (Blank.trim s)).length < 2 ∨
      ¬ Utf8.IsAscii (Utf8.encode (Blank.trim s))) := by
    rintro (hshort | hnot)
    · omega
    · exact hnot hclear
  rw [timeout, if_neg hstart, hlength]
  exact congrArg (Except.bind · ofCut) hcut

theorem length_encode_trim {s : String} (h : ∀ c ∈ Blank.trimChars s.toList, c.toNat < 128) :
    (Utf8.encode (Blank.trim s)).length = (Blank.trimChars s.toList).length := by
  rw [Blank.trim, Utf8.encode_ofList_of_ascii h, List.length_map]

/-- **A text is read in machine words without fault**, and what is read is exact. -/
theorem timeout_eq (s : String) :
    ∃ o, timeout s = .ok o ∧ o.map Duration.period = timeout? s := by
  by_cases hstart : (Utf8.encode (Blank.trim s)).length < 2 ∨
      ¬ Utf8.IsAscii (Utf8.encode (Blank.trim s))
  case pos =>
    refine ⟨none, if_pos hstart, Eq.symm (Option.eq_none_iff_forall_not_mem.2 fun p hp => ?_)⟩
    obtain ⟨ds, u, hwording, -⟩ := timeout?_eq_some_iff.1 hp
    rcases hstart with hshort | hnot
    · rw [length_encode_trim hwording.ascii] at hshort
      exact Nat.not_lt.2 hwording.two_le_length hshort
    · exact hnot (Utf8.isAscii_encode_iff.2 hwording.ascii)
  case neg =>
    have hclear : Utf8.IsAscii (Utf8.encode (Blank.trim s)) :=
      Decidable.of_not_not fun h => hstart (.inr h)
    have hascii : ∀ c ∈ Blank.trimChars s.toList, c.toNat < 128 := Utf8.isAscii_encode_iff.1 hclear
    have hlength := length_encode_trim hascii
    rcases List.eq_nil_or_concat (Blank.trimChars s.toList) with hnil | ⟨ds, c, hchars⟩
    · rw [hnil] at hlength
      exact absurd (.inl (by rw [hlength]; decide)) hstart
    · rw [List.concat_eq_append] at hchars
      rw [hchars] at hlength hascii
      have hne : ds ≠ [] := by
        rintro rfl
        exact hstart (.inl (by rw [hlength]; exact Nat.one_lt_two))
      obtain ⟨o, ho, hperiod⟩ := ofCut_eq hne (fun d hd => hascii d (List.mem_append_left [c] hd)) c
      refine ⟨o, ?_, ?_⟩
      · rw [timeout_of_trimmed hchars hne hascii, ho]
      · rw [timeout?_of_trimmed hchars, hperiod]

end SpanIntake.Grpc.Words

/-
**The forms of an identifier.**

An identifier is known by its bytes, by its hexadecimal text, by the JSON text around that, and by
one or two 64-bit words, which Thrift takes for signed ones.  Each form belongs to one identifier:
what is made of a form is the identifier that has it.  Among texts only the case of the digits is
free.  And each form puts identifiers into the same order.

Main definitions:

* `Id.Forms` — what the bytes and the texts of an identifier stand for;
* `TraceId.InWords`, `SpanId.InWords` — what its words stand for, unsigned and signed;
* `Id.OrderedAlike` — bytes, texts and numbers put two identifiers into the same order;
* `Intake.SentInWords` — the identifiers of a span in the words of a Thrift span.

Main results:

* `Id.exists_parse_iff` — **which texts are identifiers**;
* `Id.parse_eq_ok_iff` — **which identifier a text is**;
* `Id.orderedAlike`, `TraceId.lt_iff_words_lt`, `SpanId.lt_iff_toWord_lt` — the order;
* `Id.forms_agree` — all of it in one.
-/

import SpanIntake.Proofs.Bytes.Hex
import SpanIntake.Proofs.Intake.Outbound
import SpanIntake.Proofs.Intake.Provenance
import SpanIntake.Proofs.Trace.JsonForm

set_option relaxedAutoImplicit false
set_option autoImplicit false

namespace SpanIntake

variable {k : IdKind}

/-! ### Texts -/

namespace Id

theorem parse_eq_ok_iff_decode? {s : String} {i : Id k} :
    parse k s = .ok i ↔ Hex.decode? s = some i.bytes := by
  rw [parse]
  cases Hex.decode? s with
  | none => simp
  | some bs =>
      rw [Option.some.injEq, eq_comm (a := bs), ← ofBytes_eq_ok_iff]
      dsimp only
      cases ofBytes k bs with
      | ok j => simp
      | error e => cases e <;> simp

/-- **Which identifier a text is**: the one whose text it is, in lower case. -/
theorem parse_eq_ok_iff {s : String} {i : Id k} : parse k s = .ok i ↔ s.toLower = i.toHex := by
  rw [parse_eq_ok_iff_decode?, Hex.decode?_eq_some_iff, eq_comm]
  rfl

/-- **Which texts are identifiers**: those of two digits for every byte, not all of them zero. -/
theorem exists_parse_iff {s : String} :
    (∃ i, parse k s = .ok i) ↔ Hex.Spells (2 * k.size) s := by
  rw [Hex.spells_iff]
  simp only [parse_eq_ok_iff_decode?]
  constructor
  · rintro ⟨i, hi⟩
    exact ⟨i.bytes, hi, i.size_eq, by simpa using i.ne_zero⟩
  · rintro ⟨bs, hbs, hlength, hne⟩
    exact ⟨⟨bs, hlength, by simpa using hne⟩, hbs⟩

theorem ofJson?_ofText_eq_some_iff {t : String} {i : Id k} :
    ofJson? k (.ofText t) = some i ↔ t.toLower = i.toHex := by
  rw [← parse_eq_ok_iff]
  simp only [ofJson?, Json.ofText, Json.text?, Option.bind_eq_bind, Option.bind_some]
  cases parse k t <;> simp

theorem ofJson?_eq_some_iff {j : Json} {i : Id k} :
    ofJson? k j = some i ↔ ∃ t, j = .ofText t ∧ t.toLower = i.toHex := by
  constructor
  · intro h
    cases j with
    | text s =>
        cases s with
        | none => cases h
        | some t => exact ⟨t, rfl, ofJson?_ofText_eq_some_iff.1 h⟩
    | _ => cases h
  · rintro ⟨t, rfl, ht⟩
    exact ofJson?_ofText_eq_some_iff.2 ht

/-- What the bytes and the texts of an identifier stand for. -/
structure Forms (i : Id k) : Prop where
  /-- Its bytes are its own. -/
  bytes : ∀ bs, ofBytes k bs = .ok i ↔ bs = i.bytes
  /-- Its text is its own, in either case. -/
  hex : ∀ s, parse k s = .ok i ↔ s.toLower = i.toHex
  /-- The string of its text is its JSON text. -/
  written : Json.read? i.toJson.write = some (.ofText i.toHex)
  /-- Strings of its text stand for it, and no other JSON texts do. -/
  json : ∀ s, (Json.read? s).bind (ofJson? k) = some i ↔
    ∃ t, Json.read? s = some (.ofText t) ∧ t.toLower = i.toHex

theorem forms (i : Id k) : i.Forms where
  bytes bs := by rw [ofBytes_eq_ok_iff, eq_comm]
  hex _ := parse_eq_ok_iff
  written := Json.read?_write (.text _)
  json s := by
    simp only [Option.bind_eq_some_iff, ofJson?_eq_some_iff]
    constructor
    · rintro ⟨j, hread, t, rfl, ht⟩
      exact ⟨t, hread, ht⟩
    · rintro ⟨t, hread, ht⟩
      exact ⟨_, hread, t, rfl, ht⟩

end Id

/-! ### Words -/

/-- What the two words of a trace id stand for. -/
structure TraceId.InWords (i : TraceId) : Prop where
  /-- They are its own. -/
  unsigned : ∀ high low : UInt64,
    ofHighLow high low = .ok i ↔ high = TraceId.high i ∧ low = TraceId.low i
  /-- So they are taken for signed ones. -/
  signed : ∀ high low : Int64, ofHighLow high.toUInt64 low.toUInt64 = .ok i ↔
    high = (TraceId.high i).toInt64 ∧ low = (TraceId.low i).toInt64

/-- What the word of a span id stands for. -/
structure SpanId.InWords (i : SpanId) : Prop where
  /-- It is its own. -/
  unsigned : ∀ w : UInt64, ofWord w = .ok i ↔ w = SpanId.toWord i
  /-- So it is taken for a signed one. -/
  signed : ∀ w : Int64, ofWord w.toUInt64 = .ok i ↔ w = (SpanId.toWord i).toInt64

/-- Words are taken for signed ones and back. -/
theorem eq_toUInt64_iff {w : UInt64} {n : Int64} : w = n.toUInt64 ↔ n = w.toInt64 := by
  constructor
  · rintro rfl
    rfl
  · rintro rfl
    rfl

theorem TraceId.inWords (i : TraceId) : TraceId.InWords i where
  unsigned high low := by rw [ofHighLow_eq_ok_iff, eq_comm, eq_comm (b := low)]
  signed high low := by rw [ofHighLow_eq_ok_iff, eq_toUInt64_iff, eq_toUInt64_iff]

theorem SpanId.inWords (i : SpanId) : SpanId.InWords i where
  unsigned w := by rw [ofWord_eq_ok_iff, eq_comm]
  signed w := by rw [ofWord_eq_ok_iff, eq_toUInt64_iff]

/-! ### The words of a Thrift span -/

namespace Intake

/-- The identifiers of a span are read again from the words that a Thrift span sends for it. -/
structure SentInWords (s : Span) : Prop where
  traceId : TraceId.ofHighLow (thriftSpan s).traceIdHigh.toUInt64
    (thriftSpan s).traceIdLow.toUInt64 = .ok s.traceId
  spanId : SpanId.ofWord (thriftSpan s).spanId.toUInt64 = .ok s.spanId
  parent : namedParent (thriftSpan s).parentSpanId = .ok s.parent
  references : ∀ r ∈ s.references, ∃ x, referenceOfThrift (thriftReference r) = .ok x ∧
    x.traceId = r.traceId ∧ x.spanId = r.spanId

theorem sentInWords (s : Span) : SentInWords s where
  traceId := ((TraceId.inWords s.traceId).signed _ _).2 ⟨rfl, rfl⟩
  spanId := ((SpanId.inWords s.spanId).signed _).2 rfl
  parent := namedParent_eq_ok_iff.2 rfl
  references r _ := ⟨r.stated, referenceOfThrift_thriftReference r, rfl, rfl⟩

/-- The words of a Thrift span that was read are sent for it again. -/
theorem words_of_spanOfThrift {s : Thrift.Span} {t : Span} (h : spanOfThrift s = .ok t) :
    (thriftSpan t).traceIdHigh = s.traceIdHigh ∧ (thriftSpan t).traceIdLow = s.traceIdLow ∧
      (thriftSpan t).spanId = s.spanId ∧
      (s.parentSpanId ≠ 0 → (thriftSpan t).parentSpanId = s.parentSpanId) := by
  have hread := spanOfThrift_eq_ok_iff.1 h
  refine ⟨(eq_toUInt64_iff.1 hread.traceId.1).symm, (eq_toUInt64_iff.1 hread.traceId.2).symm,
    (eq_toUInt64_iff.1 hread.spanId).symm, fun hne => ?_⟩
  obtain ⟨-, hparent⟩ := (references_iff hread.traceId).1 hread.references
  rw [if_neg hne] at hparent
  exact hparent

end Intake

/-! ### The order -/

namespace Id

/-- Bytes, texts and numbers put two identifiers into the same order. -/
structure OrderedAlike (i j : Id k) : Prop where
  hex : i.toHex < j.toHex ↔ i.bytes < j.bytes
  number : i.toNat < j.toNat ↔ i.bytes < j.bytes
  le : i.le j = true ↔ ¬ j.bytes < i.bytes

theorem toNat_lt_iff {i j : Id k} : i.toNat < j.toNat ↔ i.bytes < j.bytes := by
  rw [toNat, toNat, Bytes.lt_iff_ofBigEndian_lt (i.size_eq.trans j.size_eq.symm)]

theorem orderedAlike (i j : Id k) : OrderedAlike i j where
  hex := Hex.encode_lt_iff
  number := toNat_lt_iff
  le := by rw [← toNat_lt_iff, Nat.not_lt, le, decide_eq_true_iff]

end Id

/-- **Span ids are ordered as their words.** -/
theorem SpanId.lt_iff_toWord_lt {i j : SpanId} :
    i.bytes < j.bytes ↔ SpanId.toWord i < SpanId.toWord j := by
  rw [← Id.toNat_lt_iff, UInt64.lt_iff_toNat_lt, SpanId.toWord, SpanId.toWord, Id.toNat, Id.toNat,
    Bytes.toNat_ofBigEndian i.size_eq, Bytes.toNat_ofBigEndian j.size_eq]

/-- The number of a trace id is that of its words, the high one in front. -/
theorem TraceId.toNat_eq (i : TraceId) :
    Id.toNat i = (TraceId.low i).toNat + Nat.pow 256 8 * (TraceId.high i).toNat := by
  have htake : (i.bytes.take 8).length = 8 := by rw [List.length_take, i.size_eq]; rfl
  have hdrop : (i.bytes.drop 8).length = 8 := by rw [List.length_drop, i.size_eq]; rfl
  rw [TraceId.low, TraceId.high, Bytes.toNat_ofBigEndian htake, Bytes.toNat_ofBigEndian hdrop]
  conv_lhs => rw [Id.toNat, ← List.take_append_drop 8 i.bytes, Bytes.ofBigEndian_append, hdrop]

/-- **Trace ids are ordered as their words**, the high one first. -/
theorem TraceId.lt_iff_words_lt {i j : TraceId} :
    i.bytes < j.bytes ↔ TraceId.high i < TraceId.high j ∨
      TraceId.high i = TraceId.high j ∧ TraceId.low i < TraceId.low j := by
  have hi : (TraceId.low i).toNat < Nat.pow 256 8 := (TraceId.low i).toNat_lt
  have hj : (TraceId.low j).toNat < Nat.pow 256 8 := (TraceId.low j).toNat_lt
  rw [← Id.toNat_lt_iff, TraceId.toNat_eq, TraceId.toNat_eq, Bytes.add_mul_lt_iff hi hj,
    UInt64.lt_iff_toNat_lt, UInt64.lt_iff_toNat_lt, ← UInt64.toNat_inj]

/-! ### All forms -/

/-- **The forms of an identifier agree.**  A text is an identifier exactly if it has two digits of
either case for every byte and not all of them are zero, and then its text in lower case is that of
the identifier.  Bytes, texts, JSON texts and words, also as the signed words of Thrift, are made of
identifiers and identifiers of them, each undoing the other.  All forms are in the same order. -/
theorem Id.forms_agree :
    (∀ (k : IdKind) (s : String), (∃ i, parse k s = .ok i) ↔ Hex.Spells (2 * k.size) s) ∧
    (∀ (k : IdKind) (i : Id k), i.Forms) ∧
    (∀ i : TraceId, TraceId.InWords i) ∧ (∀ i : SpanId, SpanId.InWords i) ∧
    (∀ s : Span, Intake.SentInWords s) ∧
    (∀ (s : Thrift.Span) (t : Span), Intake.spanOfThrift s = .ok t →
      (Intake.thriftSpan t).traceIdHigh = s.traceIdHigh ∧
        (Intake.thriftSpan t).traceIdLow = s.traceIdLow ∧
        (Intake.thriftSpan t).spanId = s.spanId ∧
        (s.parentSpanId ≠ 0 → (Intake.thriftSpan t).parentSpanId = s.parentSpanId)) ∧
    (∀ (k : IdKind) (i j : Id k), OrderedAlike i j) ∧
    (∀ i j : TraceId, i.bytes < j.bytes ↔ TraceId.high i < TraceId.high j ∨
      TraceId.high i = TraceId.high j ∧ TraceId.low i < TraceId.low j) ∧
    ∀ i j : SpanId, i.bytes < j.bytes ↔ SpanId.toWord i < SpanId.toWord j :=
  ⟨fun _ _ => exists_parse_iff, fun _ => forms, TraceId.inWords, SpanId.inWords,
    Intake.sentInWords, fun _ _ => Intake.words_of_spanOfThrift, fun _ => orderedAlike,
    fun _ _ => TraceId.lt_iff_words_lt, fun _ _ => SpanId.lt_iff_toWord_lt⟩

/-- The words of a span whose trace id and whose enclosing span have words with a sign. -/
theorem Id.forms_agree_namingSpan :
    ∃ t, Intake.spanOfThrift (Intake.namingSpan (-9)) = .ok t ∧
      (Intake.thriftSpan t).traceIdHigh = -1 ∧ (Intake.thriftSpan t).parentSpanId = -9 ∧
      Id.parse .trace t.traceId.toHex = .ok t.traceId ∧
      t.traceId.toHex = "ffffffffffffffff0000000000000007" := by
  obtain ⟨t, ht, hhex⟩ : ∃ t, Intake.spanOfThrift (Intake.namingSpan (-9)) = .ok t ∧
      t.traceId.toHex = "ffffffffffffffff0000000000000007" := ⟨_, rfl, by decide⟩
  obtain ⟨-, hforms, -, -, -, hwords, -⟩ := Id.forms_agree
  obtain ⟨hhigh, -, -, hparent⟩ := hwords _ t ht
  have hlower : t.traceId.toHex.toLower = t.traceId.toHex := by
    rw [hhex, ← String.toList_inj, Hex.toList_toLower]
    decide
  exact ⟨t, ht, hhigh, hparent (by decide), ((hforms .trace t.traceId).hex _).2 hlower, hhex⟩

end SpanIntake

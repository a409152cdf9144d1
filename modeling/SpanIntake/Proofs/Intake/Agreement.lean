/-
**The two wire formats agree.**

Whatever a Thrift batch says can be said in protobuf: identifiers in bytes, times in seconds and
nanoseconds, and the span that is named among the references, in front of the others unless it is
listed.  The two ways of reading know nothing of each other; still the same spans are accepted, and
they are equal in every part.  Two things have to be granted.  Every tag has a known type, since of
the others protobuf keeps the text only.  And where the named span is listed, it is the first that
is said to enclose the span, since in protobuf nothing else tells which one is meant.

Main definitions:

* `Intake.toProtobuf` — the protobuf batch that says what a Thrift batch says;
* `Thrift.Batch.Typed`, `Thrift.Span.NamesFirst` — what has to be granted.

Main results:

* `Intake.protobufAttributes_keyValues` — tags have the same attributes;
* `Intake.ofThrift_iff_ofProtobuf` — a span agrees with a Thrift span exactly if it agrees with the
  protobuf span that says the same;
* `Intake.ofProtobuf_toProtobuf` — **both batches have the same accepted spans**, and the same
  positions are rejected.
-/

import SpanIntake.Proofs.Intake.Provenance
import SpanIntake.Proofs.Intake.Sifting

set_option relaxedAutoImplicit false
set_option autoImplicit false

namespace SpanIntake

/-! ### What has to be granted -/

namespace Thrift

/-- A tag of a known type. -/
def Tag.Typed (t : Tag) : Prop := (TagType.ofCode? t.vType).isSome = true

/-- All tags of a span, and of its logs, have known types. -/
def Span.Typed (s : Span) : Prop :=
  (∀ t ∈ s.tags.getD [], t.Typed) ∧ ∀ l ∈ s.logs.getD [], ∀ t ∈ l.fields, t.Typed

/-- All tags of a batch have known types. -/
def Batch.Typed (b : Batch) : Prop :=
  (∀ t ∈ b.process.tags.getD [], t.Typed) ∧ ∀ s ∈ b.spans, s.Typed

/-- Whether a reference says that a span of the same trace encloses the span. -/
def Span.isEnclosedBy (s : Span) (r : SpanRef) : Bool :=
  r.refType == RefType.childOf.code && r.traceIdHigh == s.traceIdHigh &&
    r.traceIdLow == s.traceIdLow

/-- If the named span is listed, then it is the first that is said to enclose the span. -/
def Span.NamesFirst (s : Span) : Prop :=
  s.parentSpanId ≠ 0 → s.namedReference ∈ s.references.getD [] →
    (s.references.getD []).find? s.isEnclosedBy = some s.namedReference

instance (t : Tag) : Decidable t.Typed := inferInstanceAs (Decidable (_ = true))
instance (s : Span) : Decidable s.Typed := inferInstanceAs (Decidable (_ ∧ _))
instance (b : Batch) : Decidable b.Typed := inferInstanceAs (Decidable (_ ∧ _))
instance (s : Span) : Decidable s.NamesFirst := inferInstanceAs (Decidable (_ → _ → _))

end Thrift

namespace Intake

/-! ### The protobuf batch of a Thrift batch -/

/-- A tag in its native type, a missing value being the default; of a tag of no known type the
key. -/
def keyValue (t : Thrift.Tag) : Protobuf.KeyValue :=
  match Thrift.TagType.ofCode? t.vType with
  | some .text => { key := t.key, vType := Protobuf.ValueType.text.code, vStr := t.vStr.getD "" }
  | some .double =>
    { key := t.key, vType := Protobuf.ValueType.float64.code, vFloat64 := t.vDouble.getD .zero }
  | some .bool =>
    { key := t.key, vType := Protobuf.ValueType.bool.code, vBool := t.vBool.getD false }
  | some .long =>
    { key := t.key, vType := Protobuf.ValueType.int64.code, vInt64 := t.vLong.getD 0 }
  | some .binary =>
    { key := t.key, vType := Protobuf.ValueType.binary.code, vBinary := t.vBinary.getD [] }
  | none => { key := t.key }

/-- A point in time: seconds rounded down, and nanoseconds. -/
def timestampOfMicros (n : Int64) : Protobuf.Stamp where
  seconds := Int64.ofInt (n.toInt / 1000000)
  nanos := Int32.ofInt (n.toInt % 1000000 * 1000)

/-- A duration: seconds and nanoseconds of one sign. -/
def durationOfMicros (n : Int64) : Protobuf.Stamp where
  seconds := Int64.ofInt (n.toInt.tdiv 1000000)
  nanos := Int32.ofInt (n.toInt.tmod 1000000 * 1000)

/-- A reference. -/
def protobufReference (r : Thrift.SpanRef) : Protobuf.SpanRef where
  traceId := Bytes.ofHighLow r.traceIdHigh r.traceIdLow
  spanId := Bytes.ofWord r.spanId
  refType := r.refType

/-- A log. -/
def protobufLog (l : Thrift.Log) : Protobuf.Log where
  timestamp := some (timestampOfMicros l.timestamp)
  fields := l.fields.map keyValue

/-- A span. -/
def protobufSpan (s : Thrift.Span) : Protobuf.Span where
  traceId := Bytes.ofHighLow s.traceIdHigh s.traceIdLow
  spanId := Bytes.ofWord s.spanId
  operationName := s.operationName
  references := s.allReferences.map protobufReference
  flags := s.flags.toUInt32
  startTime := some (timestampOfMicros s.startTime)
  duration := some (durationOfMicros s.duration)
  tags := (s.tags.getD []).map keyValue
  logs := (s.logs.getD []).map protobufLog

/-- The protobuf batch that says what a Thrift batch says. -/
def toProtobuf (b : Thrift.Batch) : Protobuf.Batch where
  spans := b.spans.map protobufSpan
  process := some
    { serviceName := b.process.serviceName, tags := (b.process.tags.getD []).map keyValue }

/-! ### Tags -/

theorem key_keyValue (t : Thrift.Tag) : (keyValue t).key = t.key := by
  unfold keyValue
  split <;> rfl

theorem protobufValue_keyValue {t : Thrift.Tag} (h : t.Typed) :
    protobufValue (keyValue t) = thriftValue t := by
  obtain ⟨type, htype⟩ := Option.isSome_iff_exists.1 h
  rw [keyValue, thriftValue, htype]
  cases type <;> rfl

theorem protobufAttributes_keyValues {ts : List Thrift.Tag} (h : ∀ t ∈ ts, t.Typed) :
    protobufAttributes (ts.map keyValue) = thriftAttributes ts := by
  rw [protobufAttributes, thriftAttributes, List.map_map]
  congr 1
  refine List.map_congr_left fun t ht => ?_
  show ((keyValue t).key, protobufValue (keyValue t)) = (t.key, thriftValue t)
  rw [key_keyValue, protobufValue_keyValue (h t ht)]

/-! ### Times -/

/-- Every count of microseconds fits the words of a timestamp. -/
theorem toInt_timestampOfMicros (n : Int64) :
    (timestampOfMicros n).seconds.toInt = n.toInt / 1000000 ∧
      (timestampOfMicros n).nanos.toInt = n.toInt % 1000000 * 1000 := by
  have hmin : -9223372036854775808 ≤ n.toInt := n.minValue_le_toInt
  have hmax : n.toInt ≤ 9223372036854775807 := n.toInt_le
  constructor
  · refine Int64.toInt_ofInt_of_le ?_ ?_ <;> omega
  · refine Int32.toInt_ofInt_of_le ?_ ?_ <;> omega

theorem toNanos_durationOfMicros (n : Int64) :
    (durationOfMicros n).seconds.toInt = n.toInt.tdiv 1000000 ∧
      (durationOfMicros n).toNanos = n.toInt * 1000 := by
  have hmin : -9223372036854775808 ≤ n.toInt := n.minValue_le_toInt
  have hmax : n.toInt ≤ 9223372036854775807 := n.toInt_le
  -- the remainder has the sign of the count, and either part fits its word
  have hparts := Int.mul_tdiv_add_tmod n.toInt 1000000
  have hlow : -1000000 < n.toInt.tmod 1000000 := Int.lt_tmod_of_pos _ (by decide)
  have hhigh : n.toInt.tmod 1000000 < 1000000 := Int.tmod_lt_of_pos _ (by decide)
  have hseconds : (durationOfMicros n).seconds.toInt = n.toInt.tdiv 1000000 := by
    refine Int64.toInt_ofInt_of_le ?_ ?_ <;> omega
  have hnanos : (durationOfMicros n).nanos.toInt = n.toInt.tmod 1000000 * 1000 := by
    refine Int32.toInt_ofInt_of_le ?_ ?_ <;> omega
  refine ⟨hseconds, ?_⟩
  rw [Protobuf.Stamp.toNanos, hseconds, hnanos]
  omega

theorem requiredInstant_timestampOfMicros {field : TimeField} {n : Int64} {t : Instant} :
    requiredInstant field (some (timestampOfMicros n)) = .ok t ↔
      Instant.ofMicros? n.toInt = some t := by
  obtain ⟨hseconds, hnanos⟩ := toInt_timestampOfMicros n
  show instantOfStamp field (timestampOfMicros n) = .ok t ↔ _
  rw [instantOfStamp_eq_ok_iff, Instant.ofMicros?_eq_some_iff, hseconds, hnanos,
    Instant.IsOrdinary, Instant.toNanos]
  omega

/-- Every count of microseconds that is not negative is a duration. -/
theorem optionalDuration_durationOfMicros {n : Int64} {nanos : Int} :
    optionalDuration (some (durationOfMicros n)) = .ok nanos ↔
      n.toInt * 1000 = nanos ∧ 0 ≤ n.toInt := by
  obtain ⟨hseconds, htotal⟩ := toNanos_durationOfMicros n
  have hmax : n.toInt ≤ 9223372036854775807 := n.toInt_le
  have hlimit : maxDurationNanos = 9223372036854775807 * 1000000 := by decide
  show durationOfStamp (durationOfMicros n) = .ok nanos ↔ _
  rw [durationOfStamp_eq_ok_iff, hseconds, htotal]
  simp only [isDuration, hlimit, Bool.and_eq_true, decide_eq_true_iff]
  constructor
  · rintro ⟨rfl, hle, _⟩
    exact ⟨rfl, by omega⟩
  · rintro ⟨rfl, hle⟩
    rw [Int.tdiv_eq_ediv_of_nonneg hle]
    exact ⟨rfl, by omega, ⟨by omega, by omega⟩, by omega, by omega⟩

/-- An end is the same, whether it lies microseconds or a duration behind the beginning. -/
theorem endTime_iff {start duration : Int64} {first last : Instant}
    (hfirst : Instant.ofMicros? start.toInt = some first) :
    (∃ nanos, optionalDuration (some (durationOfMicros duration)) = .ok nanos ∧
      Instant.ofNanos? (first.toNanos + nanos) = some last) ↔
    0 ≤ duration.toInt ∧ Instant.ofMicros? (start.toInt + duration.toInt) = some last := by
  -- behind the one beginning, both ends lie at the same count of nanoseconds
  have hnanos := (Instant.ofMicros?_eq_some_iff.1 hfirst).1
  have hend : first.toNanos + duration.toInt * 1000 = (start.toInt + duration.toInt) * 1000 := by
    omega
  simp only [optionalDuration_durationOfMicros]
  constructor
  · rintro ⟨_, ⟨rfl, hle⟩, hlast⟩
    rw [hend] at hlast
    exact ⟨hle, hlast⟩
  · rintro ⟨hle, hlast⟩
    refine ⟨_, ⟨rfl, hle⟩, ?_⟩
    rw [hend]
    exact hlast

/-! ### Spans -/

/-- The first of two lists that correspond has a property, if the first of the other has it. -/
theorem find?_of_forall₂ {α β : Type} {R : α → β → Prop} {p : α → Bool} {q : β → Bool}
    (hpq : ∀ x y, R x y → p x = q y) {xs : List α} {ys : List β} (h : List.Forall₂ R xs ys)
    {x : α} (hx : xs.find? p = some x) : ∃ y, ys.find? q = some y ∧ R x y := by
  induction h with
  | nil => cases hx
  | @cons x' y' xs ys hxy _ ih =>
      rw [List.find?_cons] at hx ⊢
      rw [← hpq x' y' hxy]
      cases hp : p x' with
      | true =>
          rw [hp] at hx
          cases hx
          exact ⟨y', rfl, hxy⟩
      | false =>
          rw [hp] at hx
          exact ih hx

theorem isEnclosedBy_namedReference (s : Thrift.Span) : s.isEnclosedBy s.namedReference = true := by
  simp [Thrift.Span.isEnclosedBy, Thrift.Span.namedReference]

/-- The named span is the first of all that are said to enclose the span. -/
theorem find?_allReferences {s : Thrift.Span} (hfirst : s.NamesFirst) (hne : s.parentSpanId ≠ 0) :
    s.allReferences.find? s.isEnclosedBy = some s.namedReference := by
  by_cases hmem : s.namedReference ∈ s.references.getD []
  · rw [Thrift.Span.allReferences, if_neg (fun h => h.2 hmem)]
    exact hfirst hne hmem
  · rw [Thrift.Span.allReferences, if_pos ⟨hne, hmem⟩]
    exact List.find?_cons_of_pos (isEnclosedBy_namedReference s)

/-- A reference encloses the span before it is read exactly if it does so afterwards. -/
theorem isEnclosedBy_eq {s : Thrift.Span} {traceId : TraceId}
    (htrace : TraceId.high traceId = s.traceIdHigh.toUInt64 ∧
      TraceId.low traceId = s.traceIdLow.toUInt64)
    {r : Thrift.SpanRef} {x : SpanReference} (h : referenceOfThrift r = .ok x) :
    s.isEnclosedBy r = isParentIn traceId x := by
  obtain ⟨hids, _, hkind⟩ := says_iff_referenceOfThrift.2 h
  rw [Bool.eq_iff_iff, isParentIn_iff, hkind, ReferenceKind.ofCode_eq_childOf_iff,
    Thrift.Span.isEnclosedBy]
  simp only [Bool.and_eq_true, beq_iff_eq, and_assoc]
  refine and_congr Iff.rfl ?_
  constructor
  · rintro ⟨hhigh, hlow⟩
    refine Id.ext_bytes ?_
    rw [hids, hhigh, hlow, TraceId.bytes_eq_ofHighLow_iff.2 htrace]
  · intro heq
    rw [heq, TraceId.bytes_eq_ofHighLow_iff, htrace.1, htrace.2] at hids
    exact ⟨eq_of_toUInt64_eq hids.1.symm, eq_of_toUInt64_eq hids.2.symm⟩

theorem parentWord_inj {p : Option SpanId} {i : SpanId}
    (h : parentWord p = parentWord (some i)) : p = some i := by
  cases p with
  | none => exact nomatch parentWord_eq_zero_iff.1 h.symm
  | some j =>
      have hwords : SpanId.toWord j = SpanId.toWord i :=
        ((parentWord_some j).1 h).trans ((parentWord_some i).1 rfl).symm
      rw [SpanId.toWord_inj hwords]

/-- The named span, which is the first that is said to enclose the span, needs no name. -/
theorem parent_iff {s : Thrift.Span} (hfirst : s.NamesFirst) {traceId : TraceId}
    (htrace : TraceId.high traceId = s.traceIdHigh.toUInt64 ∧
      TraceId.low traceId = s.traceIdLow.toUInt64)
    {references : List SpanReference}
    (hreferences : List.Forall₂ (fun r x => referenceOfThrift r = .ok x) s.allReferences references)
    {parent : Option SpanId} :
    (if s.parentSpanId = 0 then parent = (references.find? (isParentIn traceId)).map (·.spanId)
      else parentWord parent = s.parentSpanId) ↔
    parent = (references.find? (isParentIn traceId)).map (·.spanId) := by
  by_cases hzero : s.parentSpanId = 0
  · rw [if_pos hzero]
  · rw [if_neg hzero]
    -- the search finds the named reference on the wire, hence the named span afterwards
    have hsame : ∀ r x, referenceOfThrift r = .ok x → s.isEnclosedBy r = isParentIn traceId x :=
      fun r x => isEnclosedBy_eq htrace
    obtain ⟨x, hx, hread⟩ :=
      find?_of_forall₂ hsame hreferences (find?_allReferences hfirst hzero)
    have hword : parentWord (some x.spanId) = s.parentSpanId :=
      (parentWord_some x.spanId).2 (referenceOfThrift_eq_ok_iff.1 hread).2.1
    rw [hx, Option.map_some, ← hword]
    constructor
    · exact parentWord_inj
    · rintro rfl
      rfl

theorem references_protobuf_iff {rs : List Thrift.SpanRef} {xs : List SpanReference} :
    List.Forall₂ (fun r x => referenceOfProtobuf r = .ok x) (rs.map protobufReference) xs ↔
      List.Forall₂ (fun r x => referenceOfThrift r = .ok x) rs xs := by
  have hread : ∀ r x, referenceOfProtobuf (protobufReference r) = .ok x ↔
      referenceOfThrift r = .ok x := by
    intro r x
    rw [← says_iff_referenceOfThrift, ← says_iff_referenceOfProtobuf]
    rfl
  simp only [List.forall₂_map_left_iff, hread]

theorem eventOfProtobuf_protobufLog {l : Thrift.Log} (htyped : ∀ t ∈ l.fields, t.Typed)
    {e : TimeEvent} : eventOfProtobuf (protobufLog l) = .ok e ↔ eventOfThrift l = .ok e := by
  rw [eventOfProtobuf_eq_ok_iff, eventOfThrift_eq_ok_iff]
  show requiredInstant .logTime (some (timestampOfMicros l.timestamp)) = .ok e.time ∧
    e.attributes = protobufAttributes (l.fields.map keyValue) ↔ _
  rw [requiredInstant_timestampOfMicros, protobufAttributes_keyValues htyped]

theorem events_protobuf_iff {ls : List Thrift.Log}
    (htyped : ∀ l ∈ ls, ∀ t ∈ l.fields, t.Typed) {es : List TimeEvent} :
    List.Forall₂ (fun l e => eventOfProtobuf l = .ok e) (ls.map protobufLog) es ↔
      List.Forall₂ (fun l e => eventOfThrift l = .ok e) ls es := by
  rw [List.forall₂_map_left_iff]
  induction ls generalizing es with
  | nil => simp only [List.forall₂_nil_left_iff]
  | cons l ls ih =>
      simp only [List.forall₂_cons_left_iff,
        eventOfProtobuf_protobufLog (htyped l List.mem_cons_self),
        ih fun l' hl' => htyped l' (List.mem_cons_of_mem l hl')]

/-- **A span agrees with a Thrift span exactly if it agrees with the protobuf span that says the
same.** -/
theorem ofThrift_iff_ofProtobuf {s : Thrift.Span} (htyped : s.Typed) (hfirst : s.NamesFirst)
    {t : Span} : OfThrift s t ↔ OfProtobuf (protobufSpan s) t := by
  have htags := protobufAttributes_keyValues htyped.1
  constructor
  · intro h
    obtain ⟨hreferences, hparent⟩ := (references_iff h.traceId).1 h.references
    exact {
      traceId := TraceId.bytes_eq_ofHighLow_iff.2 h.traceId
      spanId := SpanId.bytes_eq_ofWord_iff.2 h.spanId
      startTime := requiredInstant_timestampOfMicros.2 h.startTime
      endTime := (endTime_iff h.startTime).2 ⟨h.duration, h.endTime⟩
      references := references_protobuf_iff.2 hreferences
      parent := (parent_iff hfirst h.traceId hreferences).1 hparent
      events := (events_protobuf_iff htyped.2).2 h.events
      name := h.name
      lifted := (congrArg Reserved.lift htags).trans h.lifted }
  · intro h
    have htrace := TraceId.bytes_eq_ofHighLow_iff.1 h.traceId
    have hstart := requiredInstant_timestampOfMicros.1 h.startTime
    obtain ⟨hduration, hend⟩ := (endTime_iff hstart).1 h.endTime
    have hreferences := references_protobuf_iff.1 h.references
    exact {
      traceId := htrace
      spanId := SpanId.bytes_eq_ofWord_iff.1 h.spanId
      duration := hduration
      startTime := hstart
      endTime := hend
      references := (references_iff htrace).2
        ⟨hreferences, (parent_iff hfirst htrace hreferences).2 h.parent⟩
      events := (events_protobuf_iff htyped.2).1 h.events
      name := h.name
      lifted := (congrArg Reserved.lift htags).symm.trans h.lifted }

/-! ### Batches -/

/-- Where the same spans come of two lists, they are sifted alike. -/
theorem sift_map_of_iff {α β : Type} {lift : α → Except SpanError Span}
    {other : β → Except SpanError Span} {wire : α → β} {xs : List α}
    (h : ∀ x ∈ xs, ∀ t, lift x = .ok t ↔ other (wire x) = .ok t) (index : Nat) :
    (sift other index (xs.map wire)).1 = (sift lift index xs).1 ∧
      (sift other index (xs.map wire)).2.map (·.index) =
        (sift lift index xs).2.map (·.index) := by
  induction xs generalizing index with
  | nil => exact ⟨rfl, rfl⟩
  | cons x xs ih =>
      obtain ⟨hspans, hindices⟩ := ih (fun y hy => h y (List.mem_cons_of_mem x hy)) (index + 1)
      have hx := h x List.mem_cons_self
      rw [List.map_cons]
      cases hlift : lift x with
      | ok t =>
          rw [sift_cons_ok lift hlift, sift_cons_ok other ((hx t).1 hlift), hspans]
          exact ⟨rfl, hindices⟩
      | error e =>
          -- the errors may differ, since the formats check in different orders
          cases hother : other (wire x) with
          | ok t =>
              rw [(hx t).2 hother] at hlift
              cases hlift
          | error e' =>
              rw [sift_cons_error lift hlift, sift_cons_error other hother, List.map_cons,
                List.map_cons, hindices]
              exact ⟨hspans, rfl⟩

theorem spanOfThrift_iff_spanOfProtobuf {s : Thrift.Span} (htyped : s.Typed)
    (hfirst : s.NamesFirst) (t : Span) :
    spanOfThrift s = .ok t ↔ spanOfProtobuf (protobufSpan s) = .ok t := by
  rw [spanOfThrift_eq_ok_iff, spanOfProtobuf_eq_ok_iff]
  exact ofThrift_iff_ofProtobuf htyped hfirst

/-- **A Thrift batch and the protobuf batch that says the same have the same accepted spans**, span
by span; the same positions are rejected, and the process differs only in that Thrift keeps its
attributes as texts. -/
theorem ofProtobuf_toProtobuf {b : Thrift.Batch} (htyped : b.Typed)
    (hfirst : ∀ s ∈ b.spans, s.NamesFirst) :
    (∀ s ∈ b.spans, ∀ t, spanOfThrift s = .ok t ↔ spanOfProtobuf (protobufSpan s) = .ok t) ∧
    ∃ o, ofProtobuf (toProtobuf b) = .ok o ∧
      o.data.spans = (ofThrift b).data.spans ∧
      o.rejected.map (·.index) = (ofThrift b).rejected.map (·.index) ∧
      (ofThrift b).data.process =
        { o.data.process with attributes := o.data.process.attributes.asText } := by
  have hspans : ∀ s ∈ b.spans, ∀ t,
      spanOfThrift s = .ok t ↔ spanOfProtobuf (protobufSpan s) = .ok t :=
    fun s hs t => spanOfThrift_iff_spanOfProtobuf (htyped.2 s hs) (hfirst s hs) t
  obtain ⟨haccepted, hindices⟩ := sift_map_of_iff hspans 0
  refine ⟨hspans, _, rfl, haccepted, hindices, ?_⟩
  show processOfThrift b.process = (⟨b.process.serviceName,
    (protobufAttributes ((b.process.tags.getD []).map keyValue)).asText⟩ : ProcessInfo)
  rw [protobufAttributes_keyValues htyped.1]
  rfl

/-- A batch of two spans, one of which lists the span that it names behind a reference of another
kind, and the other of which ends before it begins. -/
def listingBatch : Thrift.Batch where
  process := ⟨"svc", some [.ofLong "pid" 5]⟩
  spans := [
    { traceIdLow := 7, traceIdHigh := -1, spanId := 1, parentSpanId := 9, operationName := "op"
      references := some [⟨1, 7, -1, 9⟩, ⟨0, 7, -1, 9⟩, ⟨0, 7, -1, 2⟩], flags := 1
      startTime := -5, duration := 1500000
      tags := some [⟨"ratio", 1, none, none, none, none, none⟩, .ofBool Reserved.error true]
      logs := some [⟨-1, [.ofBinary "raw" [255]]⟩] },
    { traceIdLow := 7, traceIdHigh := -1, spanId := 2, parentSpanId := 0, operationName := "op"
      references := none, flags := 1, startTime := 5, duration := -1500000, tags := none
      logs := none }]
  seqNo := none

theorem ofProtobuf_toProtobuf_listingBatch : listingBatch.Typed ∧
    (∀ s ∈ listingBatch.spans, s.NamesFirst) ∧
    (ofThrift listingBatch).data.spans.length = 1 ∧
    (ofThrift listingBatch).rejected.map (·.index) = [1] ∧
    ∃ o, ofProtobuf (toProtobuf listingBatch) = .ok o ∧
      o.data.spans = (ofThrift listingBatch).data.spans ∧
      o.rejected.map (·.index) = (ofThrift listingBatch).rejected.map (·.index) ∧
      (ofThrift listingBatch).data.process =
        { o.data.process with attributes := o.data.process.attributes.asText } := by
  have htyped : listingBatch.Typed := by decide
  have hfirst : ∀ s ∈ listingBatch.spans, s.NamesFirst := by decide
  exact ⟨htyped, hfirst, by decide, by decide, (ofProtobuf_toProtobuf htyped hfirst).2⟩

end Intake

end SpanIntake

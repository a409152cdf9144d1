/-
**Where the parts of an accepted span come from.**

The identifiers of an accepted span and of its references are those of the wire, and none is zero.
It ends as long after its beginning as the wire says.  Its references are those of the wire in
their order; a Thrift span may name the span that encloses it apart from them, and then that one is
put in front, unless it is among them.  The enclosing span is the one that is named, and else that
of the first reference of the span's own trace that says so; the references always tell of it.

Main definitions:

* `ReferenceKind.ofCode` — the kind of reference that a number stands for;
* `SpanReference.Says` — a reference says what a wire reference says;
* `Thrift.Span.allReferences` — the references of a Thrift span with the one that it names;
* `Span.Lawful` — what holds of a span, given its identifiers and its duration.

Main results:

* `Intake.references_iff` — enclosing span and references of a Thrift span;
* `Intake.OfThrift.lawful`, `Intake.OfProtobuf.lawful` — accepted spans are lawful;
* `Intake.provenance_of_accepted` — **all that an accepted span says comes of its wire span**.
-/

import SpanIntake.Proofs.Intake.Consistent

set_option relaxedAutoImplicit false
set_option autoImplicit false

namespace SpanIntake

/-! ### Identifiers -/

theorem Id.ext_bytes {k : IdKind} {i j : Id k} (h : i.bytes = j.bytes) : i = j := by
  obtain ⟨_, _, _⟩ := i
  obtain ⟨_, _, _⟩ := j
  obtain rfl := h
  rfl

/-- The number that an identifier spells is not zero. -/
theorem Id.toNat_ne_zero {k : IdKind} (i : Id k) : i.toNat ≠ 0 := by
  intro hzero
  have hbytes : Bytes.bigEndian k.size i.toNat = i.bytes := Bytes.bigEndian_ofBigEndian i.size_eq
  have hne := i.ne_zero
  rw [← hbytes, hzero] at hne
  cases k <;> exact absurd hne (by decide)

theorem SpanId.toWord_inj {i j : SpanId} (h : SpanId.toWord i = SpanId.toWord j) : i = j :=
  Except.ok.inj ((SpanId.ofWord_eq_ok_iff.2 rfl).symm.trans (SpanId.ofWord_eq_ok_iff.2 h.symm))

theorem eq_of_toUInt64_eq {a b : Int64} (h : a.toUInt64 = b.toUInt64) : a = b := by
  cases a
  cases b
  cases h
  rfl

namespace Bytes

/-- The bytes of a trace id that travels in two words. -/
def ofHighLow (high low : Int64) : Bytes :=
  bigEndian 8 high.toUInt64.toNat ++ bigEndian 8 low.toUInt64.toNat

/-- The bytes of a span id that travels in one word. -/
def ofWord (w : Int64) : Bytes := bigEndian 8 w.toUInt64.toNat

end Bytes

theorem TraceId.bytes_eq_ofHighLow_iff {i : TraceId} {high low : Int64} :
    i.bytes = Bytes.ofHighLow high low ↔
      TraceId.high i = high.toUInt64 ∧ TraceId.low i = low.toUInt64 := by
  rw [← TraceId.ofHighLow_eq_ok_iff, TraceId.ofHighLow, Id.ofBytes_eq_ok_iff]
  rfl

theorem SpanId.bytes_eq_ofWord_iff {i : SpanId} {w : Int64} :
    i.bytes = Bytes.ofWord w ↔ SpanId.toWord i = w.toUInt64 := by
  rw [← SpanId.ofWord_eq_ok_iff, SpanId.ofWord, Id.ofNat, Id.ofBytes_eq_ok_iff]
  rfl

/-! ### References -/

/-- The kind of reference that a number stands for, in either format. -/
def ReferenceKind.ofCode (n : Int32) : ReferenceKind :=
  if n = 0 then .childOf else if n = 1 then .followsFrom else .unspecified

theorem ReferenceKind.ofCode_eq_childOf_iff {n : Int32} : ofCode n = .childOf ↔ n = 0 := by
  rw [ofCode]
  split
  · simp [*]
  · split <;> simp [*]

/-- A reference says what a wire reference with these identifiers and this number says. -/
structure SpanReference.Says (x : SpanReference) (traceId spanId : Bytes) (code : Int32) :
    Prop where
  /-- The other span's trace id. -/
  traceId : x.traceId.bytes = traceId
  /-- The other span's id. -/
  spanId : x.spanId.bytes = spanId
  /-- The kind. -/
  kind : x.kind = .ofCode code

namespace Intake

theorem kindOfThrift_eq_ofCode (n : Int32) : kindOfThrift n = .ofCode n := by
  by_cases hzero : n = 0
  · subst hzero
    rfl
  · by_cases hone : n = 1
    · subst hone
      rfl
    · have hnone : Thrift.RefType.ofCode? n = none := by
        simp [Thrift.RefType.ofCode?, Thrift.RefType.code, Ne.symm hzero, Ne.symm hone]
      rw [kindOfThrift, hnone, ReferenceKind.ofCode, if_neg hzero, if_neg hone]

/-- The kind of a protobuf reference with a code. -/
def kindOfProtobuf (code : Int32) : ReferenceKind :=
  match Protobuf.RefType.ofCode? code with
  | some .childOf => .childOf
  | some .followsFrom => .followsFrom
  | none => .unspecified

theorem kindOfProtobuf_eq_ofCode (n : Int32) : kindOfProtobuf n = .ofCode n := by
  by_cases hzero : n = 0
  · subst hzero
    rfl
  · by_cases hone : n = 1
    · subst hone
      rfl
    · have hnone : Protobuf.RefType.ofCode? n = none := by
        simp [Protobuf.RefType.ofCode?, Protobuf.RefType.code, Ne.symm hzero, Ne.symm hone]
      rw [kindOfProtobuf, hnone, ReferenceKind.ofCode, if_neg hzero, if_neg hone]

theorem says_iff_referenceOfThrift {r : Thrift.SpanRef} {x : SpanReference} :
    x.Says (Bytes.ofHighLow r.traceIdHigh r.traceIdLow) (Bytes.ofWord r.spanId) r.refType ↔
      referenceOfThrift r = .ok x := by
  rw [referenceOfThrift_eq_ok_iff, ← TraceId.bytes_eq_ofHighLow_iff, ← SpanId.bytes_eq_ofWord_iff,
    kindOfThrift_eq_ofCode]
  constructor
  · rintro ⟨htrace, hspan, hkind⟩
    exact ⟨htrace, hspan, hkind⟩
  · rintro ⟨htrace, hspan, hkind⟩
    exact ⟨htrace, hspan, hkind⟩

theorem says_iff_referenceOfProtobuf {r : Protobuf.SpanRef} {x : SpanReference} :
    x.Says r.traceId r.spanId r.refType ↔ referenceOfProtobuf r = .ok x := by
  obtain ⟨traceId, spanId, kind⟩ := x
  simp only [referenceOfProtobuf, bind_eq_ok_iff, idIn_eq_ok_iff, Id.ofBytes_eq_ok_iff,
    pure_eq_ok_iff, SpanReference.mk.injEq]
  constructor
  · rintro ⟨htrace, hspan, hkind⟩
    rw [← kindOfProtobuf_eq_ofCode] at hkind
    exact ⟨traceId, htrace, spanId, hspan, rfl, rfl, hkind.symm⟩
  · rintro ⟨_, htrace, _, hspan, rfl, rfl, rfl⟩
    exact ⟨htrace, hspan, kindOfProtobuf_eq_ofCode r.refType⟩

end Intake

/-! ### The enclosing span -/

namespace Thrift.Span

/-- The reference that the enclosing span's id stands for. -/
def namedReference (s : Span) : SpanRef :=
  ⟨RefType.childOf.code, s.traceIdLow, s.traceIdHigh, s.parentSpanId⟩

/-- The references of a span with the one that it names, in front unless it is listed. -/
def allReferences (s : Span) : List SpanRef :=
  let listed := s.references.getD []
  if s.parentSpanId ≠ 0 ∧ s.namedReference ∉ listed then s.namedReference :: listed else listed

end Thrift.Span

namespace Intake

theorem isParentIn_iff {traceId : TraceId} {r : SpanReference} :
    isParentIn traceId r = true ↔ r.kind = .childOf ∧ r.traceId = traceId := by
  simp [isParentIn]

theorem parented_some_iff {traceId : TraceId} {references : List SpanReference} {p : SpanId} :
    Parented traceId references (some p) ↔ ⟨traceId, p, .childOf⟩ ∈ references := by
  constructor
  · rintro ⟨⟨_, _, _⟩, hr, hparent, rfl⟩
    obtain ⟨rfl, rfl⟩ := isParentIn_iff.1 hparent
    exact hr
  · intro hr
    exact ⟨_, hr, isParentIn_childOf traceId p, rfl⟩

theorem parentWord_eq_zero_iff {p : Option SpanId} : parentWord p = 0 ↔ p = none := by
  cases p with
  | none => exact ⟨fun _ => rfl, fun _ => rfl⟩
  | some i =>
      rw [parentWord_some]
      exact ⟨fun h => absurd h i.toWord_ne_zero, fun h => nomatch h⟩

section Naming

variable {s : Thrift.Span} {traceId : TraceId}

/-- The named reference is that of the span with its word. -/
theorem referenceOfThrift_namedReference_iff
    (htrace : TraceId.high traceId = s.traceIdHigh.toUInt64 ∧
      TraceId.low traceId = s.traceIdLow.toUInt64)
    {p : SpanId} (hp : parentWord (some p) = s.parentSpanId) {r : Thrift.SpanRef} :
    referenceOfThrift r = .ok ⟨traceId, p, .childOf⟩ ↔ r = s.namedReference := by
  rw [parentWord_some] at hp
  rw [referenceOfThrift_eq_ok_iff, kindOfThrift_eq_ofCode, htrace.1, htrace.2, hp]
  constructor
  · rintro ⟨⟨hhigh, hlow⟩, hspan, hkind⟩
    obtain ⟨code, low, high, span⟩ := r
    obtain rfl := eq_of_toUInt64_eq hhigh
    obtain rfl := eq_of_toUInt64_eq hlow
    obtain rfl := eq_of_toUInt64_eq hspan
    obtain rfl := ReferenceKind.ofCode_eq_childOf_iff.1 hkind.symm
    rfl
  · rintro rfl
    exact ⟨⟨rfl, rfl⟩, rfl, rfl⟩

/-- The named span is among the references that were read if it is among those of the wire. -/
theorem parented_iff_namedReference_mem
    (htrace : TraceId.high traceId = s.traceIdHigh.toUInt64 ∧
      TraceId.low traceId = s.traceIdLow.toUInt64)
    {p : SpanId} (hp : parentWord (some p) = s.parentSpanId) {wire : List Thrift.SpanRef}
    {listed : List SpanReference}
    (hlisted : List.Forall₂ (fun r x => referenceOfThrift r = .ok x) wire listed) :
    Parented traceId listed (some p) ↔ s.namedReference ∈ wire := by
  have hnamed := fun r => @referenceOfThrift_namedReference_iff s traceId htrace p hp r
  rw [parented_some_iff]
  constructor
  · intro hmem
    obtain ⟨r, hr, hread⟩ := exists_of_mem_forall₂ hlisted hmem
    rwa [← (hnamed r).1 hread]
  · intro hmem
    obtain ⟨x, hx, hread⟩ := exists_of_mem_forall₂ hlisted.flip hmem
    have hok : referenceOfThrift s.namedReference = .ok x := hread
    rw [(hnamed _).2 rfl] at hok
    rwa [Except.ok.inj hok]

/-- With a span named, what is put in front is decided by the wire alone. -/
theorem withParent_named
    (htrace : TraceId.high traceId = s.traceIdHigh.toUInt64 ∧
      TraceId.low traceId = s.traceIdLow.toUInt64)
    {p : SpanId} (hp : parentWord (some p) = s.parentSpanId) {listed : List SpanReference}
    (hlisted : List.Forall₂ (fun r x => referenceOfThrift r = .ok x) (s.references.getD [])
      listed) :
    withParent traceId (some p) listed = (some p,
      if s.namedReference ∈ s.references.getD [] then listed
      else ⟨traceId, p, .childOf⟩ :: listed) := by
  have hfound : listed.any (fun r => isParentIn traceId r && r.spanId == p) = true ↔
      s.namedReference ∈ s.references.getD [] :=
    any_isParentIn_iff.trans (parented_iff_namedReference_mem htrace hp hlisted)
  simp only [withParent, hfound]
  split <;> rfl

theorem forall₂_allReferences_iff
    (htrace : TraceId.high traceId = s.traceIdHigh.toUInt64 ∧
      TraceId.low traceId = s.traceIdLow.toUInt64)
    (hne : s.parentSpanId ≠ 0) {p : SpanId} (hp : parentWord (some p) = s.parentSpanId)
    {references : List SpanReference} :
    List.Forall₂ (fun r x => referenceOfThrift r = .ok x) s.allReferences references ↔
    ∃ listed, List.Forall₂ (fun r x => referenceOfThrift r = .ok x) (s.references.getD []) listed ∧
      references = if s.namedReference ∈ s.references.getD [] then listed
        else ⟨traceId, p, .childOf⟩ :: listed := by
  by_cases hmem : s.namedReference ∈ s.references.getD []
  · rw [Thrift.Span.allReferences, if_neg (fun h => h.2 hmem)]
    simp only [if_pos hmem, exists_eq_right']
  · have hread := (referenceOfThrift_namedReference_iff htrace hp).2 rfl
    rw [Thrift.Span.allReferences, if_pos ⟨hne, hmem⟩, List.forall₂_cons_left_iff]
    simp only [if_neg hmem]
    constructor
    · rintro ⟨x, listed, hx, hlisted, rfl⟩
      rw [hread] at hx
      obtain rfl := Except.ok.inj hx
      exact ⟨listed, hlisted, rfl⟩
    · rintro ⟨listed, hlisted, rfl⟩
      exact ⟨_, listed, hread, hlisted, rfl⟩

/-- **The references of a Thrift span are those of the wire with the one that it names**, and the
enclosing span is the one that it names, or else that of the first reference that says so. -/
theorem references_iff
    (htrace : TraceId.high traceId = s.traceIdHigh.toUInt64 ∧
      TraceId.low traceId = s.traceIdLow.toUInt64)
    {parent : Option SpanId} {references : List SpanReference} :
    (∃ named listed, parentWord named = s.parentSpanId ∧
      List.Forall₂ (fun r x => referenceOfThrift r = .ok x) (s.references.getD []) listed ∧
      withParent traceId named listed = (parent, references)) ↔
    List.Forall₂ (fun r x => referenceOfThrift r = .ok x) s.allReferences references ∧
      if s.parentSpanId = 0 then parent = (references.find? (isParentIn traceId)).map (·.spanId)
      else parentWord parent = s.parentSpanId := by
  by_cases hzero : s.parentSpanId = 0
  · rw [Thrift.Span.allReferences, if_neg (by simp [hzero]), if_pos hzero, hzero]
    constructor
    · rintro ⟨named, listed, hnamed, hlisted, hparent⟩
      rw [parentWord_eq_zero_iff.1 hnamed, withParent] at hparent
      obtain ⟨rfl, rfl⟩ := Prod.mk.inj hparent
      exact ⟨hlisted, rfl⟩
    · rintro ⟨hlisted, rfl⟩
      exact ⟨none, references, rfl, hlisted, rfl⟩
  · rw [if_neg hzero]
    constructor
    · rintro ⟨named, listed, hnamed, hlisted, hparent⟩
      cases named with
      | none => exact absurd hnamed.symm hzero
      | some p =>
          rw [withParent_named htrace hnamed hlisted] at hparent
          obtain ⟨rfl, rfl⟩ := Prod.mk.inj hparent
          exact ⟨(forall₂_allReferences_iff htrace hzero hnamed).2 ⟨listed, hlisted, rfl⟩, hnamed⟩
    · rintro ⟨hreferences, hparent⟩
      cases parent with
      | none => exact absurd hparent.symm hzero
      | some p =>
          obtain ⟨listed, hlisted, rfl⟩ :=
            (forall₂_allReferences_iff htrace hzero hparent).1 hreferences
          exact ⟨some p, listed, hparent, hlisted, withParent_named htrace hparent hlisted⟩

end Naming

end Intake

/-! ### Lawful spans -/

/-- What holds of a span, given its identifiers and its duration in nanoseconds. -/
structure Span.Lawful (t : Span) (traceId spanId : Bytes) (nanos : Int) : Prop where
  /-- It has the trace id. -/
  traceId : t.traceId.bytes = traceId
  /-- It has the span id. -/
  spanId : t.spanId.bytes = spanId
  /-- None of its identifiers is zero. -/
  ne_zero : t.traceId.toNat ≠ 0 ∧ t.spanId.toNat ≠ 0 ∧
    ∀ r ∈ t.references, r.traceId.toNat ≠ 0 ∧ r.spanId.toNat ≠ 0
  /-- It ends no earlier than it begins. -/
  ordered : t.startTime.toNanos ≤ t.endTime.toNanos
  /-- It lasts as long as given. -/
  duration : t.durationNanos = nanos
  /-- The references tell of the span that encloses it. -/
  parent_some : ∀ p, t.parent = some p → ⟨t.traceId, p, .childOf⟩ ∈ t.references
  /-- Where none encloses it, they tell of none. -/
  parent_none : t.parent = none → ∀ r ∈ t.references, r.kind = .childOf → r.traceId ≠ t.traceId

namespace Intake

/-- What is consistent and has the identifiers and the duration is lawful. -/
theorem lawful_of_consistent {t : Span} {traceId spanId : Bytes} {nanos : Int}
    (h : t.Consistent) (htrace : t.traceId.bytes = traceId) (hspan : t.spanId.bytes = spanId)
    (hduration : t.durationNanos = nanos) : t.Lawful traceId spanId nanos where
  traceId := htrace
  spanId := hspan
  ne_zero := ⟨t.traceId.toNat_ne_zero, t.spanId.toNat_ne_zero,
    fun r _ => ⟨r.traceId.toNat_ne_zero, r.spanId.toNat_ne_zero⟩⟩
  ordered := h.ordered
  duration := hduration
  parent_some p hp := by
    have hparent := h.parent
    rw [hp] at hparent
    exact parented_some_iff.1 hparent
  parent_none hnone r hr hkind htrace := by
    have hparent := h.parent
    rw [hnone] at hparent
    have hnot := hparent r hr
    rw [isParentIn_iff.2 ⟨hkind, htrace⟩] at hnot
    cases hnot

theorem OfThrift.lawful {s : Thrift.Span} {t : Span} (h : OfThrift s t) :
    t.Lawful (Bytes.ofHighLow s.traceIdHigh s.traceIdLow) (Bytes.ofWord s.spanId)
      (s.duration.toInt * 1000) := by
  -- both ends are whole microseconds, so that nothing of the duration is cut off
  refine lawful_of_consistent h.consistent (TraceId.bytes_eq_ofHighLow_iff.2 h.traceId)
    (SpanId.bytes_eq_ofWord_iff.2 h.spanId) ?_
  have hstart := (Instant.ofMicros?_eq_some_iff.1 h.startTime).1
  have hend := (Instant.ofMicros?_eq_some_iff.1 h.endTime).1
  rw [Span.durationNanos]
  omega

theorem OfProtobuf.lawful {s : Protobuf.Span} {t : Span} (h : OfProtobuf s t) :
    t.Lawful s.traceId s.spanId ((s.duration.map Protobuf.Stamp.toNanos).getD 0) := by
  refine lawful_of_consistent h.consistent h.traceId h.spanId ?_
  obtain ⟨nanos, hnanos, hend⟩ := h.endTime
  have hlast := (Instant.ofNanos?_eq_some_iff.1 hend).1
  rw [← optionalDuration_eq hnanos, Span.durationNanos]
  omega

/-- **All that an accepted span says of its identifiers, its duration, its references and the span
that encloses it comes of its wire span**, in either format. -/
theorem provenance_of_accepted :
    (∀ s t, spanOfThrift s = .ok t →
      t.Lawful (Bytes.ofHighLow s.traceIdHigh s.traceIdLow) (Bytes.ofWord s.spanId)
        (s.duration.toInt * 1000) ∧
      List.Forall₂ (fun (r : Thrift.SpanRef) x =>
        x.Says (Bytes.ofHighLow r.traceIdHigh r.traceIdLow) (Bytes.ofWord r.spanId) r.refType)
        s.allReferences t.references ∧
      (s.parentSpanId ≠ 0 → ∃ p, t.parent = some p ∧ p.bytes = Bytes.ofWord s.parentSpanId) ∧
      (s.parentSpanId = 0 →
        t.parent = (t.references.find? (isParentIn t.traceId)).map (·.spanId))) ∧
    (∀ s t, spanOfProtobuf s = .ok t →
      t.Lawful s.traceId s.spanId ((s.duration.map Protobuf.Stamp.toNanos).getD 0) ∧
      List.Forall₂ (fun (r : Protobuf.SpanRef) x => x.Says r.traceId r.spanId r.refType)
        s.references t.references ∧
      t.parent = (t.references.find? (isParentIn t.traceId)).map (·.spanId)) := by
  constructor
  · intro s t hok
    have h := spanOfThrift_eq_ok_iff.1 hok
    obtain ⟨hreferences, hparent⟩ := (references_iff h.traceId).1 h.references
    refine ⟨h.lawful, hreferences.imp fun r x => says_iff_referenceOfThrift.2, ?_, ?_⟩
    · intro hne
      rw [if_neg hne] at hparent
      cases hp : t.parent with
      | none =>
          rw [hp] at hparent
          exact absurd hparent.symm hne
      | some p =>
          rw [hp] at hparent
          exact ⟨p, rfl, SpanId.bytes_eq_ofWord_iff.2 ((parentWord_some p).1 hparent)⟩
    · intro hzero
      rwa [if_pos hzero] at hparent
  · intro s t hok
    have h := spanOfProtobuf_eq_ok_iff.1 hok
    exact ⟨h.lawful, h.references.imp fun r x => says_iff_referenceOfProtobuf.2, h.parent⟩

/-- A Thrift span with a reference to another trace, and one of an unknown kind to the span 9. -/
def namingSpan (parent : Int64) : Thrift.Span where
  traceIdLow := 7
  traceIdHigh := -1
  spanId := 1
  parentSpanId := parent
  operationName := "op"
  references := some [⟨0, 7, 0, 2⟩, ⟨5, 7, -1, 9⟩]
  flags := 1
  startTime := -5
  duration := 6
  tags := none
  logs := none

/-- A protobuf span with a duration of seconds and nanoseconds of different signs. -/
def lastingSpan : Protobuf.Span :=
  { traceId := Bytes.bigEndian 16 7, spanId := Bytes.bigEndian 8 1, operationName := "op"
    references := [⟨Bytes.bigEndian 16 7, Bytes.bigEndian 8 2, 0⟩]
    startTime := some ⟨-1, 1500⟩, duration := some ⟨1, -700⟩ }

theorem provenance_of_accepted_namingSpan :
    (∃ t, spanOfThrift (namingSpan 9) = .ok t ∧ t.references.length = 3 ∧
      t.Lawful (Bytes.ofHighLow (-1) 7) (Bytes.ofWord 1) 6000 ∧
      ∃ p, t.parent = some p ∧ p.bytes = Bytes.ofWord 9) ∧
    (∃ t, spanOfThrift (namingSpan 0) = .ok t ∧ t.references.length = 2 ∧
      t.parent = (t.references.find? (isParentIn t.traceId)).map (·.spanId)) ∧
    (∃ t, spanOfProtobuf lastingSpan = .ok t ∧
      t.Lawful (Bytes.bigEndian 16 7) (Bytes.bigEndian 8 1) 999999300 ∧
      t.parent = (t.references.find? (isParentIn t.traceId)).map (·.spanId)) := by
  have hnaming : ∃ t, spanOfThrift (namingSpan 9) = .ok t ∧ t.references.length = 3 :=
    ⟨_, rfl, by decide⟩
  have hunnamed : ∃ t, spanOfThrift (namingSpan 0) = .ok t ∧ t.references.length = 2 :=
    ⟨_, rfl, by decide⟩
  have hlasting : ∃ t, spanOfProtobuf lastingSpan = .ok t := ⟨_, rfl⟩
  obtain ⟨t, ht, hcount⟩ := hnaming
  obtain ⟨u, hu, hfew⟩ := hunnamed
  obtain ⟨v, hv⟩ := hlasting
  have hmicros : (namingSpan 9).duration.toInt * 1000 = 6000 := by decide
  have hnanos : (lastingSpan.duration.map Protobuf.Stamp.toNanos).getD 0 = 999999300 := by decide
  refine ⟨⟨t, ht, hcount, ?_, ?_⟩, ⟨u, hu, hfew, ?_⟩, ⟨v, hv, ?_, ?_⟩⟩
  · rw [← hmicros]
    exact (provenance_of_accepted.1 _ t ht).1
  · exact (provenance_of_accepted.1 _ t ht).2.2.1 (by decide)
  · exact (provenance_of_accepted.1 _ u hu).2.2.2 rfl
  · rw [← hnanos]
    exact (provenance_of_accepted.2 _ v hv).1
  · exact (provenance_of_accepted.2 _ v hv).2.2

end Intake

end SpanIntake

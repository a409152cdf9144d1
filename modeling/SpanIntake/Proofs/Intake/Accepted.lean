/-
**What an accepted span says.**

A wire span is accepted by a row of checks, each of which may refuse it.  Here the rows are turned
into what they come to: a span comes of a wire span exactly if its parts agree with the fields of
the wire span, one condition a field.

Main definitions:

* `Intake.parentWord` — the word of an enclosing span, zero for none;
* `Intake.OfThrift`, `Intake.OfProtobuf` — a span agrees with a wire span;
* `Span.lifted` — what was lifted off the tags of a span;
* `Protobuf.Stamp.toNanos` — the nanoseconds of a stamp.

Main results:

* `Intake.spanOfThrift_eq_ok_iff`, `Intake.spanOfProtobuf_eq_ok_iff` — **a span comes of a wire
  span exactly if it agrees with it**;
* `Intake.mem_sift_iff` — the accepted spans are those that come of a wire span.
-/

import Mathlib.Data.List.Forall2
import SpanIntake.Intake.OfProtobuf
import SpanIntake.Intake.OfThrift
import SpanIntake.Proofs.Checks.Row
import SpanIntake.Proofs.Time.Micros
import SpanIntake.Proofs.Trace.Words

set_option relaxedAutoImplicit false
set_option autoImplicit false

namespace SpanIntake

/-- What was lifted off the tags of a span. -/
def Span.lifted (s : Span) : Reserved.Lifted := ⟨s.status, s.kind, s.attributes⟩

/-- Nanoseconds of a stamp. -/
def Protobuf.Stamp.toNanos (s : Protobuf.Stamp) : Int :=
  s.seconds.toInt * 1000000000 + s.nanos.toInt

namespace Intake

variable {α β ε : Type}

/-! ### Checks -/

theorem exists_of_mem_forall₂ {R : α → β → Prop} {xs : List α} {ys : List β}
    (h : List.Forall₂ R xs ys) {y : β} (hy : y ∈ ys) : ∃ x ∈ xs, R x y := by
  induction h with
  | nil => cases hy
  | cons hxy hrest ih =>
      rcases List.mem_cons.1 hy with rfl | hy
      · exact ⟨_, List.mem_cons_self, hxy⟩
      · obtain ⟨x, hx, hR⟩ := ih hy
        exact ⟨x, List.mem_cons_of_mem _ hx, hR⟩

theorem idIn_eq_ok_iff {field : IdField} {x : Except IdError α} {a : α} :
    idIn field x = .ok a ↔ x = .ok a := by
  cases x with
  | error e => simp [idIn]
  | ok b => simp [idIn]

theorem instantIn_eq_ok_iff {field : TimeField} {n : Int} {t : Instant} :
    instantIn field n = .ok t ↔ Instant.ofMicros? n = some t := by
  rw [instantIn]
  cases Instant.ofMicros? n with
  | none => simp
  | some u => simp

/-! ### Thrift spans -/

/-- **The end is the sum over the integers**: where the sum of the words does not fit one, it lies
beyond all instants. -/
theorem endOfMicros_eq (start duration : Int64) :
    endOfMicros start duration = instantIn .endTime (start.toInt + duration.toInt) := by
  rw [endOfMicros, addInt64?]
  by_cases hfits : fitsInt64 (start.toInt + duration.toInt) = true
  · rw [if_pos hfits]
    show instantIn .endTime (start + duration).toInt = _
    rw [toInt_add_of_fitsInt64 hfits]
  · rw [if_neg hfits]
    have hnone : Instant.ofMicros? (start.toInt + duration.toInt) = none := by
      rw [Option.eq_none_iff_forall_ne_some]
      intro t ht
      exact hfits (Instant.fitsInt64_of_ofMicros? ht)
    rw [instantIn, hnone]

/-- The word of an enclosing span, zero for none. -/
def parentWord (p : Option SpanId) : Int64 := (p.map fun p => (SpanId.toWord p).toInt64).getD 0

/-- The enclosing span that a word names. -/
def namedParent (w : Int64) : Except SpanError (Option SpanId) :=
  if w = 0 then pure none else some <$> idIn .parentSpanId (SpanId.ofWord w.toUInt64)

theorem parentWord_some (i : SpanId) {w : Int64} :
    parentWord (some i) = w ↔ SpanId.toWord i = w.toUInt64 := by
  constructor
  · rintro rfl
    rfl
  · intro h
    show (SpanId.toWord i).toInt64 = w
    rw [h]
    rfl

/-- **A word names the enclosing span that has it.** -/
theorem namedParent_eq_ok_iff {w : Int64} {p : Option SpanId} :
    namedParent w = .ok p ↔ parentWord p = w := by
  by_cases hw : w = 0
  · rw [namedParent, if_pos hw, pure_eq_ok_iff, hw]
    cases p with
    | none => exact ⟨fun _ => rfl, fun _ => rfl⟩
    | some i =>
        rw [parentWord_some]
        constructor
        · intro h
          cases h
        · intro h
          exact absurd h i.toWord_ne_zero
  · rw [namedParent, if_neg hw, map_eq_pure_bind, bind_eq_ok_iff]
    simp only [idIn_eq_ok_iff, SpanId.ofWord_eq_ok_iff, pure_eq_ok_iff]
    constructor
    · rintro ⟨i, hi, rfl⟩
      exact (parentWord_some i).2 hi
    · intro h
      cases p with
      | none => exact absurd h.symm hw
      | some i => exact ⟨i, (parentWord_some i).1 h, rfl⟩

/-- The kind of a reference with a code. -/
def kindOfThrift (code : Int32) : ReferenceKind :=
  match Thrift.RefType.ofCode? code with
  | some .childOf => .childOf
  | some .followsFrom => .followsFrom
  | none => .unspecified

theorem referenceOfThrift_eq_ok_iff {r : Thrift.SpanRef} {x : SpanReference} :
    referenceOfThrift r = .ok x ↔
      (TraceId.high x.traceId = r.traceIdHigh.toUInt64 ∧
        TraceId.low x.traceId = r.traceIdLow.toUInt64) ∧
      SpanId.toWord x.spanId = r.spanId.toUInt64 ∧ x.kind = kindOfThrift r.refType := by
  obtain ⟨traceId, spanId, kind⟩ := x
  simp only [referenceOfThrift, bind_eq_ok_iff, idIn_eq_ok_iff, TraceId.ofHighLow_eq_ok_iff,
    SpanId.ofWord_eq_ok_iff, pure_eq_ok_iff, SpanReference.mk.injEq]
  constructor
  · rintro ⟨_, htrace, _, hspan, rfl, rfl, rfl⟩
    exact ⟨htrace, hspan, rfl⟩
  · rintro ⟨htrace, hspan, hkind⟩
    exact ⟨traceId, htrace, spanId, hspan, rfl, rfl, hkind.symm⟩

theorem eventOfThrift_eq_ok_iff {l : Thrift.Log} {e : TimeEvent} :
    eventOfThrift l = .ok e ↔
      Instant.ofMicros? l.timestamp.toInt = some e.time ∧
        e.attributes = thriftAttributes l.fields := by
  obtain ⟨time, attributes⟩ := e
  simp only [eventOfThrift, bind_eq_ok_iff, instantIn_eq_ok_iff, pure_eq_ok_iff,
    TimeEvent.mk.injEq]
  constructor
  · rintro ⟨_, htime, rfl, rfl⟩
    exact ⟨htime, rfl⟩
  · rintro ⟨htime, hattributes⟩
    exact ⟨time, htime, rfl, hattributes.symm⟩

/-- Refuses a negative duration. -/
def checkDuration (micros : Int) : Except SpanError Unit :=
  if micros < 0 then throw (.negativeDuration micros) else pure ()

theorem checkDuration_eq_ok_iff {micros : Int} {u : Unit} :
    checkDuration micros = .ok u ↔ 0 ≤ micros := by
  rw [checkDuration]
  by_cases h : micros < 0
  · rw [if_pos h]
    constructor
    · intro herror
      cases herror
    · intro hle
      exact absurd h (Int.not_lt.2 hle)
  · rw [if_neg h]
    exact ⟨fun _ => Int.not_lt.1 h, fun _ => rfl⟩

/-- A span agrees with a Thrift span. -/
structure OfThrift (s : Thrift.Span) (t : Span) : Prop where
  /-- The trace id has the two words. -/
  traceId : TraceId.high t.traceId = s.traceIdHigh.toUInt64 ∧
    TraceId.low t.traceId = s.traceIdLow.toUInt64
  /-- The span id has the word. -/
  spanId : SpanId.toWord t.spanId = s.spanId.toUInt64
  /-- The duration is not negative. -/
  duration : 0 ≤ s.duration.toInt
  /-- The beginning. -/
  startTime : Instant.ofMicros? s.startTime.toInt = some t.startTime
  /-- The end. -/
  endTime : Instant.ofMicros? (s.startTime.toInt + s.duration.toInt) = some t.endTime
  /-- The enclosing span and the references come of the word and the list. -/
  references : ∃ named listed, parentWord named = s.parentSpanId ∧
    List.Forall₂ (fun r x => referenceOfThrift r = .ok x) (s.references.getD []) listed ∧
    withParent t.traceId named listed = (t.parent, t.references)
  /-- The events. -/
  events : List.Forall₂ (fun l e => eventOfThrift l = .ok e) (s.logs.getD []) t.events
  /-- The name. -/
  name : t.name = s.operationName
  /-- Status, kind and attributes are lifted off the tags. -/
  lifted : Reserved.lift (thriftAttributes (s.tags.getD [])) = t.lifted

/-- The row of checks, each under its name. -/
theorem spanOfThrift_eq (s : Thrift.Span) :
    spanOfThrift s = (do
      let traceId ← idIn .traceId (TraceId.ofHighLow s.traceIdHigh.toUInt64 s.traceIdLow.toUInt64)
      let spanId ← idIn .spanId (SpanId.ofWord s.spanId.toUInt64)
      let _ ← checkDuration s.duration.toInt
      let startTime ← instantIn .startTime s.startTime.toInt
      let endTime ← instantIn .endTime (s.startTime.toInt + s.duration.toInt)
      let listed ← (s.references.getD []).mapM referenceOfThrift
      let named ← namedParent s.parentSpanId
      let events ← (s.logs.getD []).mapM eventOfThrift
      let lifted := Reserved.lift (thriftAttributes (s.tags.getD []))
      pure
        { traceId, spanId, parent := (withParent traceId named listed).1, name := s.operationName
          kind := lifted.kind, startTime, endTime, status := lifted.status
          attributes := lifted.attributes, references := (withParent traceId named listed).2
          events }) := by
  unfold spanOfThrift checkDuration namedParent
  simp only [endOfMicros_eq]
  -- a check that fails ends both rows, so that it is decided first
  by_cases hduration : s.duration.toInt < 0
  · simp only [if_pos hduration]
    rfl
  · by_cases hparent : s.parentSpanId = 0
    · simp only [if_neg hduration, if_pos hparent]
      rfl
    · simp only [if_neg hduration, if_neg hparent]
      rfl

/-- **A span comes of a Thrift span exactly if it agrees with it.** -/
theorem spanOfThrift_eq_ok_iff {s : Thrift.Span} {t : Span} :
    spanOfThrift s = .ok t ↔ OfThrift s t := by
  rw [spanOfThrift_eq]
  simp only [bind_eq_ok_iff, idIn_eq_ok_iff, TraceId.ofHighLow_eq_ok_iff,
    SpanId.ofWord_eq_ok_iff, checkDuration_eq_ok_iff, instantIn_eq_ok_iff, mapM_eq_ok_iff,
    namedParent_eq_ok_iff, pure_eq_ok_iff]
  constructor
  · rintro ⟨traceId, htrace, spanId, hspan, _, hduration, startTime, hstart, endTime, hend,
      listed, hlisted, named, hnamed, events, hevents, rfl⟩
    exact ⟨htrace, hspan, hduration, hstart, hend, ⟨named, listed, hnamed, hlisted, rfl⟩, hevents,
      rfl, rfl⟩
  · rintro ⟨htrace, hspan, hduration, hstart, hend, ⟨named, listed, hnamed, hlisted, hparent⟩,
      hevents, hname, hlifted⟩
    refine ⟨t.traceId, htrace, t.spanId, hspan, (), hduration, t.startTime, hstart, t.endTime, hend,
      listed, hlisted, named, hnamed, t.events, hevents, ?_⟩
    rw [hparent, hlifted, ← hname]
    rfl

/-! ### Protobuf spans -/

/-- An instant comes of a stamp exactly if it has its seconds and its nanoseconds, and lies in no
leap second. -/
theorem instantOfStamp_eq_ok_iff {field : TimeField} {s : Protobuf.Stamp} {t : Instant} :
    instantOfStamp field s = .ok t ↔
      t.seconds = s.seconds.toInt ∧ (t.nanos : Int) = s.nanos.toInt ∧ t.IsOrdinary := by
  rw [instantOfStamp, Instant.IsOrdinary]
  by_cases hnanos : 0 ≤ s.nanos.toInt ∧ s.nanos.toInt < 1000000000
  · simp only [if_pos hnanos]
    have hsome : Instant.ofSeconds? s.seconds.toInt s.nanos.toInt.toNat = some t ↔
        t.seconds = s.seconds.toInt ∧ (t.nanos : Int) = s.nanos.toInt ∧ t.nanos < 1000000000 := by
      rw [Instant.ofSeconds?_eq_some_iff]
      omega
    rw [← hsome]
    cases Instant.ofSeconds? s.seconds.toInt s.nanos.toInt.toNat with
    | none => simp
    | some u => simp
  · simp only [if_neg hnanos]
    constructor
    · intro h
      cases h
    · rintro ⟨_, hn, hlt⟩
      exact absurd (by omega) hnanos

theorem requiredInstant_eq_ok_iff {field : TimeField} {o : Option Protobuf.Stamp} {t : Instant} :
    requiredInstant field o = .ok t ↔ ∃ s, o = some s ∧ instantOfStamp field s = .ok t := by
  cases o with
  | none => simp [requiredInstant]
  | some s => simp [requiredInstant]

theorem durationOfStamp_eq_ok_iff {s : Protobuf.Stamp} {nanos : Int} :
    durationOfStamp s = .ok nanos ↔ s.toNanos = nanos ∧ 0 ≤ nanos ∧
      isDuration (s.seconds.toInt * 1000000000) = true ∧ isDuration nanos = true := by
  simp only [durationOfStamp, Protobuf.Stamp.toNanos, Bool.and_eq_true]
  split
  · rename_i hrange
    split
    · rename_i hneg
      constructor
      · intro h
        cases h
      · rintro ⟨rfl, hle, _⟩
        exact absurd hle (Int.not_le.2 hneg)
    · rename_i hneg
      constructor
      · intro h
        cases h
        exact ⟨rfl, Int.not_lt.1 hneg, hrange⟩
      · rintro ⟨rfl, _⟩
        rfl
  · rename_i hrange
    constructor
    · intro h
      cases h
    · rintro ⟨rfl, _, hdurations⟩
      exact absurd hdurations hrange

theorem optionalDuration_eq {o : Option Protobuf.Stamp} {nanos : Int}
    (h : optionalDuration o = .ok nanos) : nanos = (o.map Protobuf.Stamp.toNanos).getD 0 := by
  cases o with
  | none => exact (Except.ok.inj h).symm
  | some s => exact (durationOfStamp_eq_ok_iff.1 h).1.symm

/-- A duration is never negative. -/
theorem nonneg_of_optionalDuration {o : Option Protobuf.Stamp} {nanos : Int}
    (h : optionalDuration o = .ok nanos) : 0 ≤ nanos := by
  cases o with
  | none =>
      cases h
      exact Int.le_refl 0
  | some s => exact (durationOfStamp_eq_ok_iff.1 h).2.1

theorem endAfter_eq_ok_iff {start : Instant} {nanos : Int} {t : Instant} :
    endAfter start nanos = .ok t ↔ Instant.ofNanos? (start.toNanos + nanos) = some t := by
  rw [endAfter]
  cases Instant.ofNanos? (start.toNanos + nanos) with
  | none => simp
  | some u => simp

theorem eventOfProtobuf_eq_ok_iff {l : Protobuf.Log} {e : TimeEvent} :
    eventOfProtobuf l = .ok e ↔
      requiredInstant .logTime l.timestamp = .ok e.time ∧
        e.attributes = protobufAttributes l.fields := by
  obtain ⟨time, attributes⟩ := e
  simp only [eventOfProtobuf, bind_eq_ok_iff, pure_eq_ok_iff, TimeEvent.mk.injEq]
  constructor
  · rintro ⟨_, htime, rfl, rfl⟩
    exact ⟨htime, rfl⟩
  · rintro ⟨htime, hattributes⟩
    exact ⟨time, htime, rfl, hattributes.symm⟩

/-- A span agrees with a protobuf span. -/
structure OfProtobuf (s : Protobuf.Span) (t : Span) : Prop where
  /-- The trace id has the bytes. -/
  traceId : t.traceId.bytes = s.traceId
  /-- The span id has the bytes. -/
  spanId : t.spanId.bytes = s.spanId
  /-- The beginning. -/
  startTime : requiredInstant .startTime s.startTime = .ok t.startTime
  /-- The end lies a duration behind the beginning. -/
  endTime : ∃ nanos, optionalDuration s.duration = .ok nanos ∧
    Instant.ofNanos? (t.startTime.toNanos + nanos) = some t.endTime
  /-- The references. -/
  references : List.Forall₂ (fun r x => referenceOfProtobuf r = .ok x) s.references t.references
  /-- The enclosing span is that of the first reference that says so. -/
  parent : t.parent = (t.references.find? (isParentIn t.traceId)).map (·.spanId)
  /-- The events. -/
  events : List.Forall₂ (fun l e => eventOfProtobuf l = .ok e) s.logs t.events
  /-- The name. -/
  name : t.name = s.operationName
  /-- Status, kind and attributes are lifted off the tags. -/
  lifted : Reserved.lift (protobufAttributes s.tags) = t.lifted

/-- **A span comes of a protobuf span exactly if it agrees with it.** -/
theorem spanOfProtobuf_eq_ok_iff {s : Protobuf.Span} {t : Span} :
    spanOfProtobuf s = .ok t ↔ OfProtobuf s t := by
  simp only [spanOfProtobuf, bind_eq_ok_iff, idIn_eq_ok_iff, Id.ofBytes_eq_ok_iff,
    endAfter_eq_ok_iff, mapM_eq_ok_iff, pure_eq_ok_iff]
  constructor
  · rintro ⟨traceId, htrace, spanId, hspan, startTime, hstart, nanos, hduration, endTime, hend,
      references, hreferences, events, hevents, rfl⟩
    exact ⟨htrace, hspan, hstart, ⟨nanos, hduration, hend⟩, hreferences, rfl, hevents, rfl, rfl⟩
  · rintro ⟨htrace, hspan, hstart, ⟨nanos, hduration, hend⟩, hreferences, hparent, hevents, hname,
      hlifted⟩
    refine ⟨t.traceId, htrace, t.spanId, hspan, t.startTime, hstart, nanos, hduration, t.endTime,
      hend, t.references, hreferences, t.events, hevents, ?_⟩
    rw [hlifted, ← hparent, ← hname]
    rfl

/-! ### Batches -/

/-- The accepted spans are those that come of a wire span. -/
theorem mem_sift_iff {lift : α → Except SpanError Span} {index : Nat} {xs : List α} {t : Span} :
    t ∈ (sift lift index xs).1 ↔ ∃ x ∈ xs, lift x = .ok t := by
  induction xs generalizing index with
  | nil => simp [sift]
  | cons x xs ih =>
      rw [List.exists_mem_cons_iff, ← @ih (index + 1), sift]
      cases lift x with
      | error e => simp
      | ok u => simp [eq_comm]

/-- Where every wire span is accepted, nothing is rejected. -/
theorem sift_map_of_forall_ok {lift : α → Except SpanError Span} {wire : β → α} {f : β → Span}
    {ys : List β} (h : ∀ y ∈ ys, lift (wire y) = .ok (f y)) (index : Nat) :
    sift lift index (ys.map wire) = (ys.map f, []) := by
  induction ys generalizing index with
  | nil => rfl
  | cons y ys ih =>
      have hrest := ih (fun z hz => h z (List.mem_cons_of_mem _ hz)) (index + 1)
      rw [List.map_cons, sift, hrest, h y List.mem_cons_self]
      rfl

end Intake

end SpanIntake

/-
**What holds of every accepted span.**

Whatever the wire format, the parts of an accepted span agree with one another: it ends no earlier
than it begins, none of its times lies in a leap second, its references name the span that encloses
it, or none in its own trace where it has none, and nothing is left to lift among its attributes.

Main definitions:

* `Intake.Parented` — references name an enclosing span, or none;
* `Span.Consistent` — the parts of a span agree;
* `Intake.Accepted` — a span that comes of a wire span;
* `Intake.Produced` — trace data that comes of a wire batch.

Main results:

* `Intake.Parented.withParent_eq` — references that name the enclosing span are left as they are;
* `Intake.OfThrift.consistent`, `Intake.OfProtobuf.consistent` — accepted spans are consistent;
* `Intake.Produced.consistent` — **all spans that come of a wire batch are consistent**.
-/

import SpanIntake.Proofs.Intake.Accepted
import SpanIntake.Proofs.Trace.Lifting

set_option relaxedAutoImplicit false
set_option autoImplicit false

namespace SpanIntake

namespace Intake

/-! ### Enclosing spans -/

/-- References name an enclosing span in the given trace, or none where there is none. -/
def Parented (traceId : TraceId) (references : List SpanReference) : Option SpanId → Prop
  | some p => ∃ r ∈ references, isParentIn traceId r = true ∧ r.spanId = p
  | none => ∀ r ∈ references, isParentIn traceId r = false

/-- The first reference that names an enclosing span does so. -/
theorem parented_find (traceId : TraceId) (references : List SpanReference) :
    Parented traceId references ((references.find? (isParentIn traceId)).map (·.spanId)) := by
  cases hfind : references.find? (isParentIn traceId) with
  | none =>
      intro r hr
      exact Bool.eq_false_iff.2 (List.find?_eq_none.1 hfind r hr)
  | some r => exact ⟨r, List.mem_of_find?_eq_some hfind, List.find?_some hfind, rfl⟩

theorem isParentIn_childOf (traceId : TraceId) (p : SpanId) :
    isParentIn traceId ⟨traceId, p, .childOf⟩ = true := by
  simp [isParentIn]

theorem any_isParentIn_iff {traceId : TraceId} {p : SpanId} {references : List SpanReference} :
    (references.any fun r => isParentIn traceId r && r.spanId == p) = true ↔
      Parented traceId references (some p) := by
  simp [Parented, List.any_eq_true]

/-- Whether a span is named or not, the references come to name the one that is chosen. -/
theorem parented_withParent (traceId : TraceId) (named : Option SpanId)
    (listed : List SpanReference) :
    Parented traceId (withParent traceId named listed).2 (withParent traceId named listed).1 := by
  cases named with
  | none => exact parented_find traceId listed
  | some p =>
      rw [withParent]
      cases hlisted : listed.any fun r => isParentIn traceId r && r.spanId == p with
      | true => exact any_isParentIn_iff.1 hlisted
      | false => exact ⟨_, List.mem_cons_self, isParentIn_childOf traceId p, rfl⟩

/-- **References that name the enclosing span are left as they are.** -/
theorem Parented.withParent_eq {traceId : TraceId} {references : List SpanReference}
    {p : Option SpanId} (h : Parented traceId references p) :
    withParent traceId p references = (p, references) := by
  cases p with
  | none =>
      have hfind : references.find? (isParentIn traceId) = none := by
        rw [List.find?_eq_none]
        intro r hr
        rw [h r hr]
        exact Bool.false_ne_true
      rw [withParent, hfind]
      rfl
  | some p =>
      rw [withParent]
      exact if_pos (any_isParentIn_iff.2 h)

end Intake

/-! ### Consistent spans -/

/-- The parts of a span agree. -/
structure Span.Consistent (s : Span) : Prop where
  /-- It begins in no leap second. -/
  startTime : s.startTime.IsOrdinary
  /-- It ends in no leap second. -/
  endTime : s.endTime.IsOrdinary
  /-- It ends no earlier than it begins. -/
  ordered : s.startTime.toNanos ≤ s.endTime.toNanos
  /-- No event lies in a leap second. -/
  events : ∀ e ∈ s.events, e.time.IsOrdinary
  /-- The references name the enclosing span. -/
  parent : Intake.Parented s.traceId s.references s.parent
  /-- Nothing is left to lift. -/
  settled : s.lifted.Settled

namespace Intake

theorem OfThrift.consistent {s : Thrift.Span} {t : Span} (h : OfThrift s t) : t.Consistent := by
  obtain ⟨hstart, hstartOrdinary⟩ := Instant.ofMicros?_eq_some_iff.1 h.startTime
  obtain ⟨hend, hendOrdinary⟩ := Instant.ofMicros?_eq_some_iff.1 h.endTime
  refine ⟨hstartOrdinary, hendOrdinary, ?_, ?_, ?_, ?_⟩
  · have hduration := h.duration
    omega
  · intro e he
    obtain ⟨l, _, hl⟩ := exists_of_mem_forall₂ h.events he
    exact (Instant.ofMicros?_eq_some_iff.1 (eventOfThrift_eq_ok_iff.1 hl).1).2
  · obtain ⟨named, listed, _, _, hparent⟩ := h.references
    have hparented := parented_withParent t.traceId named listed
    rwa [hparent] at hparented
  · rw [← h.lifted]
    exact Reserved.settled_lift _

theorem isOrdinary_of_requiredInstant {field : TimeField} {o : Option Protobuf.Stamp}
    {t : Instant} (h : requiredInstant field o = .ok t) : t.IsOrdinary := by
  obtain ⟨s, _, hs⟩ := requiredInstant_eq_ok_iff.1 h
  exact (instantOfStamp_eq_ok_iff.1 hs).2.2

theorem OfProtobuf.consistent {s : Protobuf.Span} {t : Span} (h : OfProtobuf s t) :
    t.Consistent := by
  obtain ⟨nanos, hnanos, hend⟩ := h.endTime
  obtain ⟨hend, hendOrdinary⟩ := Instant.ofNanos?_eq_some_iff.1 hend
  refine ⟨isOrdinary_of_requiredInstant h.startTime, hendOrdinary, ?_, ?_, ?_, ?_⟩
  · have hduration := nonneg_of_optionalDuration hnanos
    omega
  · intro e he
    obtain ⟨l, _, hl⟩ := exists_of_mem_forall₂ h.events he
    exact isOrdinary_of_requiredInstant (eventOfProtobuf_eq_ok_iff.1 hl).1
  · rw [h.parent]
    exact parented_find t.traceId t.references
  · rw [← h.lifted]
    exact Reserved.settled_lift _

/-! ### Accepted spans -/

/-- A span that comes of a wire span, in either format. -/
inductive Accepted : Span → Prop
  | thrift {s : Thrift.Span} {t : Span} (h : spanOfThrift s = .ok t) : Accepted t
  | protobuf {s : Protobuf.Span} {t : Span} (h : spanOfProtobuf s = .ok t) : Accepted t

theorem Accepted.consistent {t : Span} (h : Accepted t) : t.Consistent := by
  cases h with
  | thrift h => exact (spanOfThrift_eq_ok_iff.1 h).consistent
  | protobuf h => exact (spanOfProtobuf_eq_ok_iff.1 h).consistent

/-! ### Trace data of wire batches -/

/-- Trace data that comes of a wire batch. -/
inductive Produced : TraceData → Prop
  | thrift (b : Thrift.Batch) : Produced (ofThrift b).data
  | protobuf {b : Protobuf.Batch} {o : Outcome} (h : ofProtobuf b = .ok o) : Produced o.data

/-- **All spans that come of a wire batch are consistent.** -/
theorem Produced.consistent {d : TraceData} (h : Produced d) : ∀ t ∈ d.spans, t.Consistent := by
  intro t ht
  cases h with
  | thrift b =>
      obtain ⟨s, _, hs⟩ := mem_sift_iff.1 ht
      exact (spanOfThrift_eq_ok_iff.1 hs).consistent
  | @protobuf b o h =>
      unfold ofProtobuf at h
      cases hprocess : batchProcess? b with
      | none => rw [hprocess] at h; cases h
      | some p =>
          rw [hprocess] at h
          cases h
          obtain ⟨s, _, hs⟩ := mem_sift_iff.1 ht
          exact (spanOfProtobuf_eq_ok_iff.1 hs).consistent

end Intake

end SpanIntake

/-
**What comes back of trace data that goes out.**

Trace data that came of a wire batch goes out as a Thrift batch.  Read again, no span is rejected
and the spans are the same in the same order, but for what the batch cannot carry: times are those
of whole microseconds, a reference of no stated kind follows from the other span, attributes of the
process are texts, and status and attributes are those of `Reserved.Lifted.normal`.

Main definitions:

* `Span.normal`, `TraceData.normal` — trace data as it comes back.

Main results:

* `Intake.spanOfThrift_thriftSpan` — a consistent span comes back as its normal form;
* `Intake.ofThrift_toThrift` — **trace data of a wire batch comes back as its normal form**.
-/

import SpanIntake.Intake.ToThrift
import SpanIntake.Proofs.Intake.Consistent

set_option relaxedAutoImplicit false
set_option autoImplicit false

namespace SpanIntake

/-! ### Normal forms -/

/-- A reference with a kind: where none is stated, it follows from the other span. -/
def SpanReference.stated (r : SpanReference) : SpanReference :=
  { r with kind := if r.kind = .unspecified then .followsFrom else r.kind }

/-- An event at the beginning of its microsecond. -/
def TimeEvent.floorMicros (e : TimeEvent) : TimeEvent := { e with time := e.time.floorMicros }

/-- A span as it comes back: its times in whole microseconds, its references with a kind, and its
status and attributes as they are lifted once more. -/
def Span.normal (s : Span) : Span :=
  { s with
    startTime := s.startTime.floorMicros
    endTime := s.endTime.floorMicros
    status := s.lifted.normal.status
    attributes := s.lifted.normal.attributes
    references := s.references.map SpanReference.stated
    events := s.events.map TimeEvent.floorMicros }

theorem Span.lifted_normal (s : Span) : s.normal.lifted = s.lifted.normal := by
  show Reserved.Lifted.mk s.lifted.normal.status s.lifted.kind s.lifted.normal.attributes = _
  rw [← s.lifted.kind_normal]

/-- Trace data as it comes back. -/
def TraceData.normal (d : TraceData) : TraceData where
  process := { d.process with attributes := d.process.attributes.asText }
  spans := d.spans.map Span.normal
  sourceFormat := .jaegerThrift

namespace Intake

/-! ### Tags and lists -/

theorem getD_unlessEmpty {α : Type} (xs : List α) : (unlessEmpty xs).getD [] = xs := by
  cases xs with
  | nil => rfl
  | cons x xs => rfl

/-- A tag has the value that it was made of. -/
theorem thriftValue_tagOf (key : String) (v : AttributeValue) : thriftValue (tagOf key v) = v := by
  cases v with
  | bool b => rfl
  | int n => rfl
  | double d => rfl
  | text s => rfl
  | bytes bs => rfl

theorem key_tagOf (key : String) (v : AttributeValue) : (tagOf key v).key = key := by
  cases v <;> rfl

theorem thriftAttributes_tagsOf (xs : List (String × AttributeValue)) :
    thriftAttributes (tagsOf xs) = Attributes.ofList xs := by
  have hpairs : (tagsOf xs).map (fun t => (t.key, thriftValue t)) = xs := by
    rw [tagsOf, List.map_map]
    exact List.map_id'' (fun x => by simp [key_tagOf, thriftValue_tagOf]) xs
  rw [thriftAttributes, hpairs]

/-! ### Spans -/

theorem referenceOfThrift_thriftReference (r : SpanReference) :
    referenceOfThrift (thriftReference r) = .ok r.stated := by
  rw [referenceOfThrift_eq_ok_iff]
  refine ⟨⟨rfl, rfl⟩, rfl, ?_⟩
  obtain ⟨traceId, spanId, kind⟩ := r
  cases kind with
  | childOf => rfl
  | followsFrom => rfl
  | unspecified => rfl

theorem eventOfThrift_thriftLog {e : TimeEvent} (h : e.time.IsOrdinary) :
    eventOfThrift (thriftLog e) = .ok e.floorMicros := by
  rw [eventOfThrift_eq_ok_iff]
  refine ⟨?_, ?_⟩
  · show Instant.ofMicros? (Int64.ofInt e.time.toMicros).toInt = some e.time.floorMicros
    rw [Instant.toInt_ofInt_toMicros]
    exact Instant.ofMicros?_toMicros h
  · show e.attributes = thriftAttributes (tagsOf e.attributes.entries)
    rw [thriftAttributes_tagsOf, Attributes.ofList_entries]

theorem isParentIn_stated (traceId : TraceId) (r : SpanReference) :
    isParentIn traceId r.stated = isParentIn traceId r := by
  obtain ⟨_, _, kind⟩ := r
  cases kind <;> rfl

/-- A reference that names the enclosing span has a kind. -/
theorem Parented.map_stated {traceId : TraceId} {references : List SpanReference}
    {p : Option SpanId} (h : Parented traceId references p) :
    Parented traceId (references.map SpanReference.stated) p := by
  cases p with
  | none =>
      intro r hr
      obtain ⟨r, hmem, rfl⟩ := List.mem_map.1 hr
      rw [isParentIn_stated]
      exact h r hmem
  | some p =>
      obtain ⟨r, hmem, hparent, hid⟩ := h
      refine ⟨r.stated, List.mem_map_of_mem hmem, ?_, hid⟩
      rwa [isParentIn_stated]

theorem forall₂_map_of_forall_mem {α β γ : Type} {R : β → γ → Prop} {f : α → β} {g : α → γ}
    {xs : List α} (h : ∀ x ∈ xs, R (f x) (g x)) : List.Forall₂ R (xs.map f) (xs.map g) := by
  rw [List.forall₂_map_left_iff, List.forall₂_map_right_iff]
  exact List.forall₂_same.2 h

/-- **A consistent span comes back as its normal form**, if its duration in microseconds fits the
word it goes out in. -/
theorem spanOfThrift_thriftSpan {s : Span} (hs : s.Consistent)
    (hfits : fitsInt64 s.durationMicros = true) : spanOfThrift (thriftSpan s) = .ok s.normal := by
  have hduration : (thriftSpan s).duration.toInt = s.endTime.toMicros - s.startTime.toMicros :=
    toInt_ofInt_of_fitsInt64 hfits
  have hstart : (thriftSpan s).startTime.toInt = s.startTime.toMicros :=
    s.startTime.toInt_ofInt_toMicros
  rw [spanOfThrift_eq_ok_iff]
  refine ⟨⟨rfl, rfl⟩, rfl, ?_, ?_, ?_, ?_, ?_, rfl, ?_⟩
  · have hle := Instant.toMicros_le_toMicros hs.ordered
    omega
  · rw [hstart]
    exact Instant.ofMicros?_toMicros hs.startTime
  · have hend : s.startTime.toMicros + (s.endTime.toMicros - s.startTime.toMicros) =
        s.endTime.toMicros := by omega
    rw [hstart, hduration, hend]
    exact Instant.ofMicros?_toMicros hs.endTime
  -- the enclosing span is among the references already, so that none is put in front
  · refine ⟨s.parent, s.references.map SpanReference.stated, rfl, ?_,
      hs.parent.map_stated.withParent_eq⟩
    show List.Forall₂ _ ((unlessEmpty (s.references.map thriftReference)).getD []) _
    rw [getD_unlessEmpty]
    exact forall₂_map_of_forall_mem fun r _ => referenceOfThrift_thriftReference r
  · show List.Forall₂ _ ((unlessEmpty (s.events.map thriftLog)).getD []) _
    rw [getD_unlessEmpty]
    exact forall₂_map_of_forall_mem fun e he => eventOfThrift_thriftLog (hs.events e he)
  · show Reserved.lift (thriftAttributes ((unlessEmpty (tagsOf s.lifted.pairs)).getD [])) = _
    rw [getD_unlessEmpty, thriftAttributes_tagsOf, Reserved.lift_pairs hs.settled]
    exact s.lifted_normal.symm

/-! ### Trace data -/

/-- Attributes of a process are texts already when they come back. -/
theorem processOfThrift_toThrift (d : TraceData) :
    processOfThrift (toThrift d).process =
      { d.process with attributes := d.process.attributes.asText } := by
  show (⟨_, (thriftAttributes ((unlessEmpty
    (tagsOf d.process.attributes.asText.entries)).getD [])).asText⟩ : ProcessInfo) = _
  rw [getD_unlessEmpty, thriftAttributes_tagsOf, Attributes.ofList_entries,
    Attributes.asText_asText]
  rfl

/-- **Trace data of a wire batch comes back as its normal form**, and no span is rejected, if the
durations in microseconds fit the words they go out in. -/
theorem ofThrift_toThrift {d : TraceData} (hd : Produced d)
    (hfits : ∀ s ∈ d.spans, fitsInt64 s.durationMicros = true) :
    ofThrift (toThrift d) = ⟨d.normal, []⟩ := by
  have hspans : ∀ s ∈ d.spans, spanOfThrift (thriftSpan s) = .ok s.normal :=
    fun s hs => spanOfThrift_thriftSpan (hd.consistent s hs) (hfits s hs)
  have hsift : sift spanOfThrift 0 (toThrift d).spans = (d.spans.map Span.normal, []) :=
    sift_map_of_forall_ok hspans 0
  rw [ofThrift, outcome, hsift, processOfThrift_toThrift]
  rfl

/-- A protobuf batch with times between two microseconds, a reference of no stated kind and a
failure without an error flag. -/
def stampedBatch : Protobuf.Batch where
  process := some { serviceName := "svc" }
  spans := [
    { traceId := Bytes.bigEndian 16 7, spanId := Bytes.bigEndian 8 1, operationName := "op"
      references := [⟨Bytes.bigEndian 16 7, Bytes.bigEndian 8 2, 5⟩]
      startTime := some ⟨1, 1500⟩, duration := some ⟨0, 700⟩
      tags := [Protobuf.KeyValue.ofInt64 Reserved.statusCode 5] }]

/-- The trace data of the batch. -/
def stampedData : TraceData :=
  (outcome spanOfProtobuf (processOfProtobuf { serviceName := "svc" }) .jaegerProto
    stampedBatch.spans).data

theorem produced_stampedData : Produced stampedData :=
  @Produced.protobuf stampedBatch _ rfl

theorem ofThrift_toThrift_stampedData : Produced stampedData ∧
    stampedData.spans.length = 1 ∧
    (∀ s ∈ stampedData.spans, fitsInt64 s.durationMicros = true) ∧
    ofThrift (toThrift stampedData) = ⟨stampedData.normal, []⟩ := by
  have hfits : ∀ s ∈ stampedData.spans, fitsInt64 s.durationMicros = true := by decide
  exact ⟨produced_stampedData, by decide, hfits, ofThrift_toThrift produced_stampedData hfits⟩

end Intake

end SpanIntake

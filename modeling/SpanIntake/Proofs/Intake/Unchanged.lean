/-
**Spans that come back unchanged.**

Spans of a Thrift batch have their times in whole microseconds already.  If they carry an error
flag of their own, and their references have a kind, all that can change on the way out and back
is the status: success is not written down, so that a span whose code says success while its error
flag says failure comes back as an unknown failure; and a code that could not be interpreted is
written over, where the flag made a failure of the span.

Main results:

* `Intake.OfThrift.normal_eq_self_iff` — when one span comes back unchanged;
* `Intake.spans_ofThrift_toThrift_eq_iff` — **the spans of a batch come back unchanged exactly if
  code and flag agree in each of them**.
-/

import SpanIntake.Proofs.Intake.Outbound

set_option relaxedAutoImplicit false
set_option autoImplicit false

namespace SpanIntake

namespace Intake

/-! ### One span -/

theorem map_eq_self_iff {α : Type} {f : α → α} {xs : List α} :
    xs.map f = xs ↔ ∀ x ∈ xs, f x = x := by
  have hid : xs.map f = xs ↔ xs.map f = xs.map id := by rw [List.map_id]
  rw [hid, List.map_inj_left]
  rfl

theorem stated_eq_self {r : SpanReference} (h : r.kind ≠ .unspecified) : r.stated = r := by
  rw [SpanReference.stated, if_neg h]

theorem kindOfThrift_ne_unspecified {code : Int32} (h : (Thrift.RefType.ofCode? code).isSome) :
    kindOfThrift code ≠ .unspecified := by
  rw [kindOfThrift]
  cases hcode : Thrift.RefType.ofCode? code with
  | none => rw [hcode] at h; cases h
  | some k => cases k <;> decide

/-- The duration of a Thrift span fits the word it came in. -/
theorem OfThrift.durationMicros_eq {s : Thrift.Span} {t : Span} (h : OfThrift s t) :
    t.durationMicros = s.duration.toInt := by
  rw [Span.durationMicros, Instant.toMicros_of_ofMicros? h.endTime,
    Instant.toMicros_of_ofMicros? h.startTime]
  omega

theorem OfThrift.map_floorMicros {s : Thrift.Span} {t : Span} (h : OfThrift s t) :
    t.events.map TimeEvent.floorMicros = t.events := by
  rw [map_eq_self_iff]
  intro e he
  obtain ⟨l, _, hl⟩ := exists_of_mem_forall₂ h.events he
  rw [TimeEvent.floorMicros, Instant.floorMicros_of_ofMicros? (eventOfThrift_eq_ok_iff.1 hl).1]

/-- The reference that is put in front of the listed ones has a kind. -/
theorem mem_withParent {traceId : TraceId} {named : Option SpanId} {listed : List SpanReference}
    {r : SpanReference} (h : r ∈ (withParent traceId named listed).2) :
    r ∈ listed ∨ r.kind = .childOf := by
  cases named with
  | none => exact .inl h
  | some p =>
      rw [withParent] at h
      split at h
      · exact .inl h
      · rcases List.mem_cons.1 h with rfl | h
        · exact .inr rfl
        · exact .inl h

theorem OfThrift.map_stated {s : Thrift.Span} {t : Span} (h : OfThrift s t)
    (hkinds : ∀ r ∈ s.references.getD [], (Thrift.RefType.ofCode? r.refType).isSome) :
    t.references.map SpanReference.stated = t.references := by
  obtain ⟨named, listed, _, hlisted, hparent⟩ := h.references
  rw [map_eq_self_iff]
  intro r hr
  refine stated_eq_self ?_
  rw [show t.references = (withParent t.traceId named listed).2 by rw [hparent]] at hr
  rcases mem_withParent hr with hr | hkind
  · obtain ⟨w, hw, hok⟩ := exists_of_mem_forall₂ hlisted hr
    rw [(referenceOfThrift_eq_ok_iff.1 hok).2.2]
    exact kindOfThrift_ne_unspecified (hkinds w hw)
  · rw [hkind]
    decide

/-- **A span comes back unchanged exactly if its code and its flag agree.** -/
theorem OfThrift.normal_eq_self_iff {s : Thrift.Span} {t : Span} (h : OfThrift s t)
    (herror : (thriftAttributes (s.tags.getD [])).contains Reserved.error = true)
    (hkinds : ∀ r ∈ s.references.getD [], (Thrift.RefType.ofCode? r.refType).isSome) :
    t.normal = t ↔ Reserved.Agreeing (thriftAttributes (s.tags.getD [])) := by
  have hlifted : t.normal = t ↔ t.lifted.normal = t.lifted := by
    constructor
    · intro hnormal
      rw [← t.lifted_normal, hnormal]
    · intro hlifted
      -- times, references and events are in their normal form from the start
      rw [Span.normal, Instant.floorMicros_of_ofMicros? h.startTime,
        Instant.floorMicros_of_ofMicros? h.endTime, h.map_stated hkinds, h.map_floorMicros, hlifted]
      rfl
  rw [hlifted, ← h.lifted]
  exact Reserved.normal_lift_eq_self_iff herror

/-! ### Batches -/

theorem contains_thriftAttributes {ts : List Thrift.Tag} {key : String}
    (h : ∃ t ∈ ts, t.key = key) : (thriftAttributes ts).contains key = true :=
  Attributes.contains_ofList_map_iff.2 h

/-- **The spans of a batch come back unchanged exactly if code and flag agree in each of them**,
where every span carries an error flag and every reference has a kind. -/
theorem spans_ofThrift_toThrift_eq_iff {b : Thrift.Batch}
    (herror : ∀ s ∈ b.spans, ∃ t ∈ s.tags.getD [], t.key = Reserved.error)
    (hkinds : ∀ s ∈ b.spans, ∀ r ∈ s.references.getD [],
      r.refType = Thrift.RefType.childOf.code ∨ r.refType = Thrift.RefType.followsFrom.code) :
    (ofThrift (toThrift (ofThrift b).data)).data.spans = (ofThrift b).data.spans ↔
      ∀ s ∈ b.spans, ∀ t, spanOfThrift s = .ok t →
        Reserved.Agreeing (thriftAttributes (s.tags.getD [])) := by
  have hmem : ∀ t, t ∈ (ofThrift b).data.spans ↔ ∃ s ∈ b.spans, spanOfThrift s = .ok t :=
    fun t => mem_sift_iff
  have hfits : ∀ t ∈ (ofThrift b).data.spans, fitsInt64 t.durationMicros = true := by
    intro t ht
    obtain ⟨s, _, hs⟩ := (hmem t).1 ht
    rw [(spanOfThrift_eq_ok_iff.1 hs).durationMicros_eq]
    exact fitsInt64_toInt s.duration
  have hspan : ∀ s ∈ b.spans, ∀ t, spanOfThrift s = .ok t →
      (t.normal = t ↔ Reserved.Agreeing (thriftAttributes (s.tags.getD []))) := by
    intro s hs t ht
    refine (spanOfThrift_eq_ok_iff.1 ht).normal_eq_self_iff
      (contains_thriftAttributes (herror s hs)) fun r hr => ?_
    rcases hkinds s hs r hr with hcode | hcode
    · rw [hcode]; rfl
    · rw [hcode]; rfl
  rw [ofThrift_toThrift (.thrift b) hfits]
  show (ofThrift b).data.spans.map Span.normal = _ ↔ _
  rw [map_eq_self_iff]
  constructor
  · intro hself s hs t ht
    exact (hspan s hs t ht).1 (hself t ((hmem t).2 ⟨s, hs, ht⟩))
  · intro hagree t ht
    obtain ⟨s, hs, hok⟩ := (hmem t).1 ht
    exact (hspan s hs t hok).2 (hagree s hs t hok)

/-- A batch of one span whose tags are an error flag and the given code. -/
def flaggedBatch (code : Int64) : Thrift.Batch where
  process := ⟨"svc", none⟩
  spans := [
    { traceIdLow := 7, traceIdHigh := 0, spanId := 1, parentSpanId := 0, operationName := "op"
      references := some [⟨Thrift.RefType.followsFrom.code, 7, 0, 2⟩], flags := 1
      startTime := 5, duration := 6
      tags := some [.ofBool Reserved.error true, .ofLong Reserved.statusCode code], logs := none }]
  seqNo := none

theorem spans_ofThrift_toThrift_eq_iff_flaggedBatch :
    (∀ s ∈ (flaggedBatch 5).spans, ∃ t ∈ s.tags.getD [], t.key = Reserved.error) ∧
    (∀ s ∈ (flaggedBatch 5).spans, ∀ r ∈ s.references.getD [],
      r.refType = Thrift.RefType.childOf.code ∨ r.refType = Thrift.RefType.followsFrom.code) ∧
    ((ofThrift (toThrift (ofThrift (flaggedBatch 5)).data)).data.spans =
        (ofThrift (flaggedBatch 5)).data.spans ↔
      ∀ s ∈ (flaggedBatch 5).spans, ∀ t, spanOfThrift s = .ok t →
        Reserved.Agreeing (thriftAttributes (s.tags.getD []))) := by
  have herror : ∀ s ∈ (flaggedBatch 5).spans, ∃ t ∈ s.tags.getD [], t.key = Reserved.error := by
    decide
  have hkinds : ∀ s ∈ (flaggedBatch 5).spans, ∀ r ∈ s.references.getD [],
      r.refType = Thrift.RefType.childOf.code ∨ r.refType = Thrift.RefType.followsFrom.code := by
    decide
  exact ⟨herror, hkinds, spans_ofThrift_toThrift_eq_iff herror hkinds⟩

/-- **A span that says success while its error flag says failure does not come back unchanged.** -/
theorem spans_flaggedBatch_ne :
    (∀ s ∈ (flaggedBatch 0).spans, ∃ t ∈ s.tags.getD [], t.key = Reserved.error) ∧
    (∀ s ∈ (flaggedBatch 0).spans, ∀ r ∈ s.references.getD [],
      r.refType = Thrift.RefType.childOf.code ∨ r.refType = Thrift.RefType.followsFrom.code) ∧
    (ofThrift (toThrift (ofThrift (flaggedBatch 0)).data)).data.spans ≠
      (ofThrift (flaggedBatch 0)).data.spans := by
  refine ⟨by decide, by decide, fun h => ?_⟩
  have hcodes := congrArg (List.map (·.status.code)) h
  have hbefore : (ofThrift (flaggedBatch 0)).data.spans.map (·.status.code) = [.ok] := by decide
  have hafter : (ofThrift (toThrift (ofThrift (flaggedBatch 0)).data)).data.spans.map
      (·.status.code) = [.unknown] := by decide
  rw [hbefore, hafter] at hcodes
  cases hcodes

end Intake

end SpanIntake

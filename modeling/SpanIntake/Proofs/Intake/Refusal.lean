/-
**Which spans are accepted, and why the others are not.**

What is demanded of a wire span is said here over the integers, without words that could overflow
and without the bounded arithmetic of instants and durations.  A span is accepted exactly if it
meets all demands, and otherwise the error is that of the first one it does not meet.

Of a Thrift span the end is the sum of two words; where it does not fit one it lies beyond all
instants, so that no sum is ever taken modulo the range of a word.  The named enclosing span cannot
be invalid, since zero names none.  Of a protobuf span the duration has to be one in two steps: its
seconds by themselves, and then with the nanoseconds.  So a duration can be refused that is in
range as a whole.

Main definitions:

* `Instant.Covers` — the seconds that instants cover;
* `Thrift.Span.demands`, `Protobuf.Span.demands` — what is demanded of a span, in the order of the
  checks;
* `Protobuf.Stamp.Measured` — the duration is one in both steps.

Main results:

* `Intake.judged_spanOfThrift`, `Intake.judged_spanOfProtobuf` — both readers are judged by these
  demands;
* `Intake.spanOfThrift_refusal`, `Intake.spanOfProtobuf_refusal` — **a span is accepted exactly if
  it meets all demands, and refused for the first one it does not meet**;
* `Intake.spanOfProtobuf_offsetSpan` — a duration in range that is refused.
-/

import SpanIntake.Proofs.Intake.Demands
import SpanIntake.Proofs.Intake.Provenance

set_option relaxedAutoImplicit false
set_option autoImplicit false

namespace SpanIntake

/-! ### Instants -/

namespace Instant

/-- The whole seconds since the epoch that instants cover. -/
def Covers (seconds : Int) : Prop := minSeconds ≤ seconds ∧ seconds ≤ maxSeconds

instance (seconds : Int) : Decidable (Covers seconds) := inferInstanceAs (Decidable (_ ∧ _))

theorem exists_ofSeconds?_iff {seconds : Int} {nanos : Nat} (h : nanos < 1000000000) :
    (∃ t, ofSeconds? seconds nanos = some t) ↔ Covers seconds := by
  constructor
  · rintro ⟨t, ht⟩
    obtain ⟨rfl, _⟩ := ofSeconds?_eq_some_iff.1 ht
    exact ⟨t.ge_min, t.le_max⟩
  · rintro ⟨hmin, hmax⟩
    exact ⟨_, dif_pos ⟨hmin, hmax, by omega⟩⟩

theorem exists_ofNanos?_iff {n : Int} :
    (∃ t, ofNanos? n = some t) ↔ Covers (n / 1000000000) :=
  exists_ofSeconds?_iff (by omega)

theorem exists_ofMicros?_iff {n : Int} : (∃ t, ofMicros? n = some t) ↔ Covers (n / 1000000) := by
  have hseconds : n / 1000000 = n * 1000 / 1000000000 := by omega
  rw [hseconds]
  exact exists_ofNanos?_iff

end Instant

namespace Intake

/-- A check that an instant exists. -/
theorem judged_instant {o : Option Instant} {x : Except SpanError Instant} {d : Demand SpanError}
    (hmet : d.Met ↔ ∃ t, o = some t) (hsome : ∀ t, o = some t → x = .ok t)
    (hnone : o = none → x = .error d.error) : Judged x [d] := by
  refine judged_singleton (fun h => ?_) fun h => hnone ?_
  · obtain ⟨t, ht⟩ := hmet.1 h
    exact ⟨t, hsome t ht⟩
  · rw [Option.eq_none_iff_forall_ne_some]
    intro t ht
    exact h (hmet.2 ⟨t, ht⟩)

theorem judged_instantIn (field : TimeField) (micros : Int) :
    Judged (instantIn field micros)
      [⟨Instant.Covers (micros / 1000000), .timeOutOfRange field⟩] := by
  refine judged_instant Instant.exists_ofMicros?_iff.symm
    (fun t => instantIn_eq_ok_iff.2) fun hnone => ?_
  rw [instantIn, hnone]

theorem judged_endAfter (start : Instant) (nanos : Int) :
    Judged (endAfter start nanos)
      [⟨Instant.Covers ((start.toNanos + nanos) / 1000000000), .timeOutOfRange .endTime⟩] := by
  refine judged_instant Instant.exists_ofNanos?_iff.symm
    (fun t => endAfter_eq_ok_iff.2) fun hnone => ?_
  rw [endAfter, hnone]

/-! ### Identifiers -/

/-- What is demanded of the bytes of an identifier: there are as many as its kind has, and not all
are zero. -/
def idDemands (field : IdField) (kind : IdKind) (bs : Bytes) : List (Demand SpanError) :=
  [⟨bs.length = kind.size, .id field (.invalidLength kind bs.length)⟩,
    ⟨∃ b ∈ bs, b ≠ 0, .id field (.zero kind)⟩]

theorem judged_ofBytes (field : IdField) (kind : IdKind) (bs : Bytes) :
    Judged (idIn field (Id.ofBytes kind bs)) (idDemands field kind bs) := by
  have hany : bs.any (· != 0) = true ↔ ∃ b ∈ bs, b ≠ 0 := by
    simp only [List.any_eq_true, bne_iff_ne]
  rw [Id.ofBytes, idDemands]
  by_cases hsize : bs.length = kind.size
  · rw [dif_pos hsize]
    refine Judged.cons ?_ hsize
    by_cases hzero : bs.any (· != 0) = true
    · rw [dif_pos hzero]
      exact (judged_ok _).cons (hany.1 hzero)
    · rw [dif_neg hzero]
      exact judged_error (mt hany.2 hzero)
  · rw [dif_neg hsize]
    exact judged_error hsize

theorem toUInt64_ne_zero_iff {w : Int64} : w.toUInt64 ≠ 0 ↔ w ≠ 0 :=
  not_congr ⟨fun h => eq_of_toUInt64_eq h, fun h => congrArg Int64.toUInt64 h⟩

theorem judged_ofWord (field : IdField) (w : Int64) :
    Judged (idIn field (SpanId.ofWord w.toUInt64)) [⟨w ≠ 0, .id field (.zero .span)⟩] := by
  -- a word always has the eight bytes of a span id
  refine (judged_ofBytes field .span (Bytes.bigEndian 8 w.toUInt64.toNat)).congr ?_
  rw [idDemands, firstUnmet?_cons_of_met (Bytes.length_bigEndian 8 _)]
  exact firstUnmet?_singleton_congr (Bytes.exists_ne_zero_iff.trans toUInt64_ne_zero_iff) _

theorem judged_ofHighLow (field : IdField) (high low : Int64) :
    Judged (idIn field (TraceId.ofHighLow high.toUInt64 low.toUInt64))
      [⟨high ≠ 0 ∨ low ≠ 0, .id field (.zero .trace)⟩] := by
  refine (judged_ofBytes field .trace (Bytes.bigEndian 8 high.toUInt64.toNat ++
    Bytes.bigEndian 8 low.toUInt64.toNat)).congr ?_
  have hsize : (Bytes.bigEndian 8 high.toUInt64.toNat ++
      Bytes.bigEndian 8 low.toUInt64.toNat).length = IdKind.trace.size := by
    rw [List.length_append, Bytes.length_bigEndian, Bytes.length_bigEndian]
    rfl
  rw [idDemands, firstUnmet?_cons_of_met hsize]
  refine firstUnmet?_singleton_congr ?_ _
  rw [← toUInt64_ne_zero_iff, ← toUInt64_ne_zero_iff, ← Bytes.exists_ne_zero_iff,
    ← Bytes.exists_ne_zero_iff]
  simp only [List.mem_append, or_and_right, exists_or]

end Intake

/-! ### Thrift spans -/

namespace Thrift

/-- What is demanded of a reference. -/
def SpanRef.demands (r : SpanRef) : List (Demand SpanError) :=
  [⟨r.traceIdHigh ≠ 0 ∨ r.traceIdLow ≠ 0, .id .referenceTraceId (.zero .trace)⟩,
    ⟨r.spanId ≠ 0, .id .referenceSpanId (.zero .span)⟩]

/-- What is demanded of a log. -/
def Log.demands (l : Log) : List (Demand SpanError) :=
  [⟨Instant.Covers (l.timestamp.toInt / 1000000), .timeOutOfRange .logTime⟩]

/-- What is demanded of a span, in the order of the checks. -/
def Span.demands (s : Span) : List (Demand SpanError) :=
  [⟨s.traceIdHigh ≠ 0 ∨ s.traceIdLow ≠ 0, .id .traceId (.zero .trace)⟩,
    ⟨s.spanId ≠ 0, .id .spanId (.zero .span)⟩,
    ⟨0 ≤ s.duration.toInt, .negativeDuration s.duration.toInt⟩,
    ⟨Instant.Covers (s.startTime.toInt / 1000000), .timeOutOfRange .startTime⟩,
    ⟨Instant.Covers ((s.startTime.toInt + s.duration.toInt) / 1000000),
      .timeOutOfRange .endTime⟩] ++
  ((s.references.getD []).flatMap SpanRef.demands ++ (s.logs.getD []).flatMap Log.demands)

end Thrift

namespace Intake

theorem judged_referenceOfThrift (r : Thrift.SpanRef) :
    Judged (referenceOfThrift r) r.demands := by
  refine (judged_ofHighLow .referenceTraceId r.traceIdHigh r.traceIdLow).bind fun traceId _ => ?_
  exact (judged_ofWord .referenceSpanId r.spanId).bind_ok fun spanId => ⟨_, rfl⟩

theorem judged_eventOfThrift (l : Thrift.Log) : Judged (eventOfThrift l) l.demands :=
  (judged_instantIn .logTime l.timestamp.toInt).bind_ok fun _ => ⟨_, rfl⟩

theorem judged_checkDuration (micros : Int) :
    Judged (checkDuration micros) [⟨0 ≤ micros, .negativeDuration micros⟩] := by
  refine judged_singleton (fun h => ⟨(), checkDuration_eq_ok_iff.2 h⟩) fun h => ?_
  rw [checkDuration, if_pos (Int.not_le.1 h)]
  rfl

/-- The enclosing span that is named is never refused, since only the word zero is no span id. -/
theorem judged_namedParent (w : Int64) : Judged (namedParent w) [] := by
  by_cases hw : w = 0
  · rw [namedParent, if_pos hw]
    exact judged_ok none
  · obtain ⟨p, hp⟩ := (judged_ofWord .parentSpanId w).isOk_iff.2 (List.forall_mem_singleton.2 hw)
    rw [namedParent, if_neg hw, hp]
    exact judged_ok (some p)

/-- **The reader of Thrift spans is judged by their demands.** -/
theorem judged_spanOfThrift (s : Thrift.Span) : Judged (spanOfThrift s) s.demands := by
  rw [spanOfThrift_eq]
  refine (judged_ofHighLow .traceId s.traceIdHigh s.traceIdLow).bind fun traceId _ => ?_
  refine (judged_ofWord .spanId s.spanId).bind fun spanId _ => ?_
  refine (judged_checkDuration s.duration.toInt).bind fun _ _ => ?_
  refine (judged_instantIn .startTime s.startTime.toInt).bind fun startTime _ => ?_
  refine (judged_instantIn .endTime (s.startTime.toInt + s.duration.toInt)).bind fun endTime _ => ?_
  refine (Judged.mapM judged_referenceOfThrift _).bind fun listed _ => ?_
  refine (judged_namedParent s.parentSpanId).bind fun named _ => ?_
  exact (Judged.mapM judged_eventOfThrift _).bind_ok fun events => ⟨_, rfl⟩

/-- The end of an accepted span is the sum over the integers, and so is the sum of the words. -/
theorem OfThrift.toInt_end {s : Thrift.Span} {t : Span} (h : OfThrift s t) :
    (s.startTime + s.duration).toInt = s.startTime.toInt + s.duration.toInt ∧
      t.endTime.toNanos = (s.startTime.toInt + s.duration.toInt) * 1000 :=
  ⟨toInt_add_of_fitsInt64 (Instant.fitsInt64_of_ofMicros? h.endTime),
    (Instant.ofMicros?_eq_some_iff.1 h.endTime).1⟩

theorem ne_parentSpanId_of_mem_demands {s : Thrift.Span} {d : Demand SpanError}
    (h : d ∈ s.demands) (cause : IdError) : d.error ≠ .id .parentSpanId cause := by
  simp only [Thrift.Span.demands, Thrift.SpanRef.demands, Thrift.Log.demands, List.mem_append,
    List.mem_flatMap, List.mem_cons, List.not_mem_nil, or_false] at h
  rcases h with (rfl | rfl | rfl | rfl | rfl) | ⟨r, _, rfl | rfl⟩ | ⟨l, _, rfl⟩ <;> simp

/-- **A Thrift span is accepted exactly if it meets all demands, and refused for the first one it
does not meet.**  The enclosing span that it names is never the cause, and where it is accepted the
sum of beginning and duration has not been wrapped. -/
theorem spanOfThrift_refusal (s : Thrift.Span) :
    ((∃ t, spanOfThrift s = .ok t) ↔ ∀ d ∈ s.demands, d.Met) ∧
    (∀ e, spanOfThrift s = .error e ↔ firstUnmet? s.demands = some e) ∧
    (∀ cause, spanOfThrift s ≠ .error (.id .parentSpanId cause)) ∧
    (∀ t, spanOfThrift s = .ok t →
      (s.startTime + s.duration).toInt = s.startTime.toInt + s.duration.toInt ∧
        t.endTime.toNanos = (s.startTime.toInt + s.duration.toInt) * 1000) := by
  have hjudged := judged_spanOfThrift s
  refine ⟨hjudged.isOk_iff, fun e => hjudged.eq_error_iff, fun cause herror => ?_,
    fun t ht => (spanOfThrift_eq_ok_iff.1 ht).toInt_end⟩
  obtain ⟨d, hd, _, hcause⟩ := exists_of_firstUnmet?_eq_some (hjudged.eq_error_iff.1 herror)
  exact ne_parentSpanId_of_mem_demands hd cause hcause

/-- A span that names an enclosing span, with given times, references and logs. -/
def timedSpan (start duration : Int64) (references : List Thrift.SpanRef) (logs : List Thrift.Log) :
    Thrift.Span where
  traceIdLow := 0
  traceIdHigh := 7
  spanId := 1
  parentSpanId := 9
  operationName := "op"
  references := some references
  flags := 1
  startTime := start
  duration := duration
  tags := none
  logs := some logs

/-- A span may end in the last microsecond that instants cover; one that would end beyond the range
of a word is refused for its end, before its references are looked at, and one with a reference to
no span for that reference, before its logs are. -/
theorem spanOfThrift_refusal_timedSpan :
    (∃ t, spanOfThrift (timedSpan 8210266876799999998 1 [] []) = .ok t ∧
      t.endTime.toNanos = 8210266876799999999000) ∧
    spanOfThrift (timedSpan 8210266876799999998 Int64.maxValue [⟨0, 0, 0, 2⟩] []) =
      .error (.timeOutOfRange .endTime) ∧
    spanOfThrift (timedSpan 5 1 [⟨0, 7, 0, 2⟩, ⟨0, 7, 0, 0⟩] [⟨Int64.maxValue, []⟩]) =
      .error (.id .referenceSpanId (.zero .span)) := by
  refine ⟨?_, ((spanOfThrift_refusal _).2.1 _).2 (by decide),
    ((spanOfThrift_refusal _).2.1 _).2 (by decide)⟩
  obtain ⟨t, ht⟩ := (spanOfThrift_refusal (timedSpan 8210266876799999998 1 [] [])).1.2 (by decide)
  exact ⟨t, ht, ((spanOfThrift_refusal _).2.2.2 t ht).2⟩

end Intake

/-! ### Protobuf spans -/

namespace Protobuf

/-- The nanoseconds stay within the second, and instants cover the seconds. -/
def Stamp.Covered (s : Stamp) : Prop :=
  0 ≤ s.nanos.toInt ∧ s.nanos.toInt < 1000000000 ∧ Instant.Covers s.seconds.toInt

instance (s : Stamp) : Decidable s.Covered := inferInstanceAs (Decidable (_ ∧ _ ∧ _))

/-- The seconds are a duration by themselves, and they are one with the nanoseconds. -/
def Stamp.Measured (s : Stamp) : Prop :=
  Intake.isDuration (s.seconds.toInt * 1000000000) = true ∧ Intake.isDuration s.toNanos = true

instance (s : Stamp) : Decidable s.Measured := inferInstanceAs (Decidable (_ ∧ _))

/-- What is demanded of a point in time. -/
def stampDemands (field : TimeField) (o : Option Stamp) : List (Demand SpanError) :=
  [⟨o.isSome, .missingTime field⟩, ⟨∀ s ∈ o, s.Covered, .timeOutOfRange field⟩]

/-- What is demanded of a reference. -/
def SpanRef.demands (r : SpanRef) : List (Demand SpanError) :=
  Intake.idDemands .referenceTraceId .trace r.traceId ++
    Intake.idDemands .referenceSpanId .span r.spanId

/-- What is demanded of a log. -/
def Log.demands (l : Log) : List (Demand SpanError) := stampDemands .logTime l.timestamp

/-- The duration of a span in nanoseconds, zero where it is absent. -/
def Span.durationNanos (s : Span) : Int := (s.duration.map Stamp.toNanos).getD 0

/-- The duration of a span has to be one in both steps. -/
def Span.measuredDemand (s : Span) : Demand SpanError :=
  ⟨∀ d ∈ s.duration, d.Measured, .timeOutOfRange .duration⟩

/-- The duration of a span must not be negative.  The error tells it in microseconds, rounded toward
zero, but not below the least signed 64-bit word. -/
def Span.nonnegDemand (s : Span) : Demand SpanError :=
  ⟨0 ≤ s.durationNanos,
    .negativeDuration (max Int64.minValue.toInt (Int.tdiv s.durationNanos 1000))⟩

/-- What is demanded of a span, in the order of the checks, with given demands on the range of its
duration. -/
def Span.demandsWith (range : List (Demand SpanError)) (s : Span) : List (Demand SpanError) :=
  Intake.idDemands .traceId .trace s.traceId ++ (Intake.idDemands .spanId .span s.spanId ++
    (stampDemands .startTime s.startTime ++ (range ++ ([s.nonnegDemand,
    ⟨∀ t ∈ s.startTime, Instant.Covers ((t.toNanos + s.durationNanos) / 1000000000),
      .timeOutOfRange .endTime⟩] ++
    (s.references.flatMap SpanRef.demands ++ s.logs.flatMap Log.demands)))))

/-- What is demanded of a span, in the order of the checks. -/
def Span.demands (s : Span) : List (Demand SpanError) := s.demandsWith [s.measuredDemand]

end Protobuf

namespace Intake

theorem judged_instantOfStamp (field : TimeField) (s : Protobuf.Stamp) :
    Judged (instantOfStamp field s) [⟨s.Covered, .timeOutOfRange field⟩] := by
  rw [instantOfStamp]
  by_cases hnanos : 0 ≤ s.nanos.toInt ∧ s.nanos.toInt < 1000000000
  · have hcovered : s.Covered ↔
        ∃ t, Instant.ofSeconds? s.seconds.toInt s.nanos.toInt.toNat = some t := by
      rw [Instant.exists_ofSeconds?_iff (by omega), Protobuf.Stamp.Covered, ← and_assoc,
        and_iff_right hnanos]
    rw [if_pos hnanos]
    refine judged_instant hcovered (fun t ht => ?_) fun hnone => ?_
    · rw [ht]
    · rw [hnone]
  · rw [if_neg hnanos]
    exact judged_error fun h => hnanos ⟨h.1, h.2.1⟩

theorem judged_requiredInstant (field : TimeField) (o : Option Protobuf.Stamp) :
    Judged (requiredInstant field o) (Protobuf.stampDemands field o) := by
  cases o with
  | none => exact judged_error Bool.false_ne_true
  | some s =>
      refine Judged.cons ?_ rfl
      exact (judged_instantOfStamp field s).congr (firstUnmet?_singleton_congr (by simp) _)

theorem judged_durationOfStamp (d : Protobuf.Stamp) :
    Judged (durationOfStamp d) [⟨d.Measured, .timeOutOfRange .duration⟩,
      ⟨0 ≤ d.toNanos, .negativeDuration (max Int64.minValue.toInt (Int.tdiv d.toNanos 1000))⟩] := by
  have hmeasured : d.Measured ↔ (isDuration (d.seconds.toInt * 1000000000) &&
      isDuration (d.seconds.toInt * 1000000000 + d.nanos.toInt)) = true :=
    Bool.and_eq_true_iff.symm
  rw [durationOfStamp]
  by_cases h : d.Measured
  · rw [if_pos (hmeasured.1 h)]
    refine Judged.cons (judged_singleton (fun hnonneg => ?_) fun hneg => ?_) h
    · exact ⟨_, if_neg (Int.not_lt.2 hnonneg)⟩
    · exact if_pos (Int.not_le.1 hneg)
  · rw [if_neg (mt hmeasured.2 h)]
    exact judged_error h

theorem judged_optionalDuration (s : Protobuf.Span) :
    Judged (optionalDuration s.duration) [s.measuredDemand, s.nonnegDemand] := by
  rw [Protobuf.Span.measuredDemand, Protobuf.Span.nonnegDemand, Protobuf.Span.durationNanos]
  cases s.duration with
  | none => exact ((judged_ok 0).cons (Int.le_refl 0)).cons (by simp)
  | some d =>
      refine (judged_durationOfStamp d).congr ?_
      simp only [firstUnmet?, Option.mem_some_iff, forall_eq', Option.map_some, Option.getD_some]

theorem judged_referenceOfProtobuf (r : Protobuf.SpanRef) :
    Judged (referenceOfProtobuf r) r.demands := by
  refine (judged_ofBytes .referenceTraceId .trace r.traceId).bind fun traceId _ => ?_
  exact (judged_ofBytes .referenceSpanId .span r.spanId).bind_ok fun spanId => ⟨_, rfl⟩

theorem judged_eventOfProtobuf (l : Protobuf.Log) : Judged (eventOfProtobuf l) l.demands :=
  (judged_requiredInstant .logTime l.timestamp).bind_ok fun _ => ⟨_, rfl⟩

/-- A beginning that is read has the nanoseconds of its stamp. -/
theorem toNanos_of_requiredInstant {field : TimeField} {s : Protobuf.Stamp} {t : Instant}
    (h : requiredInstant field (some s) = .ok t) : t.toNanos = s.toNanos := by
  obtain ⟨hseconds, hnanos, _⟩ := instantOfStamp_eq_ok_iff.1 h
  rw [Instant.toNanos, Protobuf.Stamp.toNanos, hseconds, hnanos]

theorem judged_endTime {s : Protobuf.Span} {start : Instant} {nanos : Int}
    (hstart : requiredInstant .startTime s.startTime = .ok start)
    (hnanos : optionalDuration s.duration = .ok nanos) :
    Judged (endAfter start nanos) [⟨∀ t ∈ s.startTime,
      Instant.Covers ((t.toNanos + s.durationNanos) / 1000000000), .timeOutOfRange .endTime⟩] := by
  refine (judged_endAfter start nanos).congr (firstUnmet?_singleton_congr ?_ _)
  have hduration : nanos = s.durationNanos := optionalDuration_eq hnanos
  obtain ⟨stamp, hstamp, _⟩ := requiredInstant_eq_ok_iff.1 hstart
  rw [hstamp] at hstart
  rw [hstamp, hduration, toNanos_of_requiredInstant hstart]
  simp only [Option.mem_some_iff, forall_eq']

/-- **The reader of protobuf spans is judged by their demands.** -/
theorem judged_spanOfProtobuf (s : Protobuf.Span) : Judged (spanOfProtobuf s) s.demands := by
  refine (judged_ofBytes .traceId .trace s.traceId).bind fun traceId _ => ?_
  refine (judged_ofBytes .spanId .span s.spanId).bind fun spanId _ => ?_
  refine (judged_requiredInstant .startTime s.startTime).bind fun startTime hstart => ?_
  refine (judged_optionalDuration s).bind fun nanos hnanos => ?_
  refine (judged_endTime hstart hnanos).bind fun endTime _ => ?_
  refine (Judged.mapM judged_referenceOfProtobuf _).bind fun references _ => ?_
  exact (Judged.mapM judged_eventOfProtobuf _).bind_ok fun events => ⟨_, rfl⟩

/-- A span that begins and ends within the instants has a duration in range, so that this need not
be demanded apart. -/
theorem measured_of_met {s : Protobuf.Span} (h : ∀ d ∈ s.demandsWith [], d.Met) :
    ∀ d ∈ s.duration, d.Measured := by
  simp only [Protobuf.Span.demandsWith, Protobuf.stampDemands, Protobuf.Span.nonnegDemand,
    List.forall_mem_append, List.forall_mem_cons] at h
  obtain ⟨_, _, ⟨hstart, hcovered, _⟩, _, ⟨hnonneg, hend, _⟩, _⟩ := h
  obtain ⟨start, hsome⟩ := Option.isSome_iff_exists.1 hstart
  obtain ⟨hlow, hhigh, hmin, _⟩ := hcovered start hsome
  have hmax := (hend start hsome).2
  intro d hd
  rw [Protobuf.Span.durationNanos, hd, Option.map_some, Option.getD_some] at hnonneg hmax
  -- instants span far less than the longest duration, so that a second more or less does not matter
  have hlimit : maxDurationNanos = 9223372036854775807 * 1000000 := by decide
  have hleast : -2147483648 ≤ d.nanos.toInt := d.nanos.minValue_le_toInt
  have hmost : d.nanos.toInt ≤ 2147483647 := d.nanos.toInt_le
  rw [Instant.minSeconds] at hmin
  rw [Instant.maxSeconds] at hmax
  rw [Protobuf.Stamp.Measured]
  simp only [isDuration, hlimit, Bool.and_eq_true, decide_eq_true_iff, Protobuf.Stamp.toNanos]
    at hnonneg hmax ⊢
  omega

theorem forall_demandsWith_iff {range : List (Demand SpanError)} {s : Protobuf.Span} :
    (∀ d ∈ s.demandsWith range, d.Met) ↔
      (∀ d ∈ range, d.Met) ∧ ∀ d ∈ s.demandsWith [], d.Met := by
  simp only [Protobuf.Span.demandsWith, List.forall_mem_append, List.nil_append]
  tauto

theorem forall_demands_iff {s : Protobuf.Span} :
    (∀ d ∈ s.demands, d.Met) ↔ ∀ d ∈ s.demandsWith [], d.Met := by
  rw [Protobuf.Span.demands, forall_demandsWith_iff, List.forall_mem_singleton]
  exact and_iff_right_of_imp measured_of_met

/-- **A protobuf span is accepted exactly if it meets all demands**, among which the range of the
duration goes without saying, **and refused for the first one it does not meet**, that range
included. -/
theorem spanOfProtobuf_refusal (s : Protobuf.Span) :
    ((∃ t, spanOfProtobuf s = .ok t) ↔ ∀ d ∈ s.demandsWith [], d.Met) ∧
    ∀ e, spanOfProtobuf s = .error e ↔ firstUnmet? (s.demandsWith [s.measuredDemand]) = some e := by
  have hjudged := judged_spanOfProtobuf s
  exact ⟨hjudged.isOk_iff.trans forall_demands_iff, fun e => hjudged.eq_error_iff⟩

/-- A span at the epoch whose seconds are no duration, though they are one less its nanoseconds. -/
def offsetSpan : Protobuf.Span :=
  { traceId := Bytes.bigEndian 16 7, spanId := Bytes.bigEndian 8 1
    startTime := some ⟨0, 0⟩, duration := some ⟨9223372036854776, -193000000⟩ }

/-- **The duration is not measured as a whole**: were it so, this span would be refused for its end. -/
theorem spanOfProtobuf_offsetSpan :
    spanOfProtobuf offsetSpan = .error (.timeOutOfRange .duration) ∧
    firstUnmet? (offsetSpan.demandsWith
      [⟨isDuration offsetSpan.durationNanos = true, .timeOutOfRange .duration⟩]) =
      some (.timeOutOfRange .endTime) := by
  decide

end Intake

end SpanIntake

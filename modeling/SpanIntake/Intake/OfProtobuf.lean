/-
**Trace data of a protobuf batch.**

A span is checked in a fixed order: its identifiers, its beginning, its duration, its end, its
references, its logs.  The enclosing span is that of the first reference of its own trace that says
so.  The process is the batch's, or else that of the first span that has one.

Main definitions

* `Intake.spanOfProtobuf`, `Intake.processOfProtobuf`;
* `Intake.ofProtobuf` — the outcome of a batch.
-/

import SpanIntake.Intake.Outcome
import SpanIntake.Protobuf.Batch
import SpanIntake.Trace.Reserved

set_option relaxedAutoImplicit false
set_option autoImplicit false

namespace SpanIntake.Intake

/-! ### Tags -/

/-- The value of a key; one of no known type has its text. -/
def protobufValue (m : Protobuf.KeyValue) : AttributeValue :=
  match Protobuf.ValueType.ofCode? m.vType with
  | some .text => .text m.vStr
  | some .bool => .bool m.vBool
  | some .int64 => .int m.vInt64
  | some .float64 => .double m.vFloat64
  | some .binary => .bytes m.vBinary
  | none => .text m.vStr

/-- The attributes of tags; of tags with one key the last counts. -/
def protobufAttributes (ms : List Protobuf.KeyValue) : Attributes :=
  Attributes.ofList (ms.map fun m => (m.key, protobufValue m))

/-- A process. -/
def processOfProtobuf (p : Protobuf.ProcessInfo) : ProcessInfo :=
  ⟨p.serviceName, protobufAttributes p.tags⟩

/-! ### Spans -/

/-- A reference. -/
def referenceOfProtobuf (r : Protobuf.SpanRef) : Except SpanError SpanReference := do
  let traceId ← idIn .referenceTraceId (Id.ofBytes .trace r.traceId)
  let spanId ← idIn .referenceSpanId (Id.ofBytes .span r.spanId)
  let kind : ReferenceKind :=
    match Protobuf.RefType.ofCode? r.refType with
    | some .childOf => .childOf
    | some .followsFrom => .followsFrom
    | none => .unspecified
  pure ⟨traceId, spanId, kind⟩

/-- The instant of a stamp in a field; its nanoseconds stay within the second. -/
def instantOfStamp (field : TimeField) (s : Protobuf.Stamp) : Except SpanError Instant :=
  let nanos := s.nanos.toInt
  if 0 ≤ nanos ∧ nanos < 1000000000 then
    match Instant.ofSeconds? s.seconds.toInt nanos.toNat with
    | some t => .ok t
    | none => .error (.timeOutOfRange field)
  else .error (.timeOutOfRange field)

/-- The instant of a stamp that may be absent. -/
def requiredInstant (field : TimeField) : Option Protobuf.Stamp → Except SpanError Instant
  | some s => instantOfStamp field s
  | none => .error (.missingTime field)

/-- The longest duration either way, in nanoseconds: as many milliseconds as a signed 64-bit word
holds. -/
def maxDurationNanos : Int := Int64.maxValue.toInt * 1000000

/-- Whether a count of nanoseconds is a duration. -/
def isDuration (nanos : Int) : Bool := -maxDurationNanos ≤ nanos && nanos ≤ maxDurationNanos

/-- The nanoseconds of a duration: its seconds must be one by themselves and with the nanoseconds,
and it must not be negative. -/
def durationOfStamp (s : Protobuf.Stamp) : Except SpanError Int :=
  let seconds := s.seconds.toInt * 1000000000
  let nanos := seconds + s.nanos.toInt
  if isDuration seconds && isDuration nanos then
    if nanos < 0 then .error (.negativeDuration (max Int64.minValue.toInt (Int.tdiv nanos 1000)))
    else .ok nanos
  else .error (.timeOutOfRange .duration)

/-- The nanoseconds of a duration that may be absent. -/
def optionalDuration : Option Protobuf.Stamp → Except SpanError Int
  | some s => durationOfStamp s
  | none => .ok 0

/-- The instant so many nanoseconds after another, as the end of a span. -/
def endAfter (start : Instant) (nanos : Int) : Except SpanError Instant :=
  match Instant.ofNanos? (start.toNanos + nanos) with
  | some t => .ok t
  | none => .error (.timeOutOfRange .endTime)

/-- An event. -/
def eventOfProtobuf (l : Protobuf.Log) : Except SpanError TimeEvent := do
  let time ← requiredInstant .logTime l.timestamp
  pure ⟨time, protobufAttributes l.fields⟩

/-- A span. -/
def spanOfProtobuf (s : Protobuf.Span) : Except SpanError Span := do
  let traceId ← idIn .traceId (Id.ofBytes .trace s.traceId)
  let spanId ← idIn .spanId (Id.ofBytes .span s.spanId)
  let startTime ← requiredInstant .startTime s.startTime
  let duration ← optionalDuration s.duration
  let endTime ← endAfter startTime duration
  let references ← s.references.mapM referenceOfProtobuf
  let parent := (references.find? (isParentIn traceId)).map (·.spanId)
  let events ← s.logs.mapM eventOfProtobuf
  let lifted := Reserved.lift (protobufAttributes s.tags)
  pure
    { traceId, spanId, parent, name := s.operationName, kind := lifted.kind, startTime, endTime
      status := lifted.status, attributes := lifted.attributes, references, events }

/-- The process of a batch. -/
def batchProcess? (b : Protobuf.Batch) : Option Protobuf.ProcessInfo :=
  b.process.or (b.spans.findSome? (·.process))

/-- The outcome of a batch. -/
def ofProtobuf (b : Protobuf.Batch) : Except BatchError Outcome :=
  match batchProcess? b with
  | some p => .ok (outcome spanOfProtobuf (processOfProtobuf p) .jaegerProto b.spans)
  | none => .error .missingProcess

end SpanIntake.Intake

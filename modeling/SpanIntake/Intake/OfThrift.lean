/-
**Trace data of a Thrift batch.**

A span is checked in a fixed order: its identifiers, the sign of its duration, beginning and end,
its references, its logs.  The enclosing span is the one that the span names, which is put in front
of the references unless they list it; a span that names none is enclosed by the first reference of
its own trace that says so.

Main definitions

* `Intake.spanOfThrift`, `Intake.processOfThrift`;
* `Intake.ofThrift` — the outcome of a batch.
-/

import SpanIntake.Intake.Outcome
import SpanIntake.Thrift.Batch
import SpanIntake.Trace.Reserved

set_option relaxedAutoImplicit false
set_option autoImplicit false

namespace SpanIntake.Intake

/-! ### Tags -/

/-- The value of a tag.  A missing value is the default of its type; a tag of no known type has the
text of the first value it carries. -/
def thriftValue (t : Thrift.Tag) : AttributeValue :=
  match Thrift.TagType.ofCode? t.vType with
  | some .text => .text (t.vStr.getD "")
  | some .double => .double (t.vDouble.getD .zero)
  | some .bool => .bool (t.vBool.getD false)
  | some .long => .int (t.vLong.getD 0)
  | some .binary => .bytes (t.vBinary.getD [])
  | none =>
    match t.vStr, t.vLong, t.vDouble, t.vBool, t.vBinary with
    | some s, _, _, _, _ => .text s
    | _, some n, _, _, _ => (AttributeValue.int n).asText
    | _, _, some d, _, _ => (AttributeValue.double d).asText
    | _, _, _, some b, _ => (AttributeValue.bool b).asText
    | _, _, _, _, some bs => (AttributeValue.bytes bs).asText
    | none, none, none, none, none => .text ""

/-- The attributes of tags; of tags with one key the last counts. -/
def thriftAttributes (ts : List Thrift.Tag) : Attributes :=
  Attributes.ofList (ts.map fun t => (t.key, thriftValue t))

/-- The process of a batch; its attributes are texts. -/
def processOfThrift (p : Thrift.ProcessInfo) : ProcessInfo :=
  ⟨p.serviceName, (thriftAttributes (p.tags.getD [])).asText⟩

/-! ### Spans -/

/-- A reference. -/
def referenceOfThrift (r : Thrift.SpanRef) : Except SpanError SpanReference := do
  let traceId ← idIn .referenceTraceId
    (TraceId.ofHighLow r.traceIdHigh.toUInt64 r.traceIdLow.toUInt64)
  let spanId ← idIn .referenceSpanId (SpanId.ofWord r.spanId.toUInt64)
  let kind : ReferenceKind :=
    match Thrift.RefType.ofCode? r.refType with
    | some .childOf => .childOf
    | some .followsFrom => .followsFrom
    | none => .unspecified
  pure ⟨traceId, spanId, kind⟩

/-- The instant of a count of microseconds in a field. -/
def instantIn (field : TimeField) (micros : Int) : Except SpanError Instant :=
  match Instant.ofMicros? micros with
  | some t => .ok t
  | none => .error (.timeOutOfRange field)

/-- The instant some microseconds after a count of them, as the end of a span.  Their sum must fit a
word. -/
def endOfMicros (start duration : Int64) : Except SpanError Instant :=
  match addInt64? start duration with
  | some n => instantIn .endTime n.toInt
  | none => .error (.timeOutOfRange .endTime)

/-- An event. -/
def eventOfThrift (l : Thrift.Log) : Except SpanError TimeEvent := do
  let time ← instantIn .logTime l.timestamp.toInt
  pure ⟨time, thriftAttributes l.fields⟩

/-- The enclosing span and the references, from the one that the span names and those it lists. -/
def withParent (traceId : TraceId) (named : Option SpanId) (listed : List SpanReference) :
    Option SpanId × List SpanReference :=
  match named with
  | none => ((listed.find? (isParentIn traceId)).map (·.spanId), listed)
  | some parent =>
    if listed.any (fun r => isParentIn traceId r && r.spanId == parent) then (some parent, listed)
    else (some parent, ⟨traceId, parent, .childOf⟩ :: listed)

/-- A span. -/
def spanOfThrift (s : Thrift.Span) : Except SpanError Span := do
  let traceId ← idIn .traceId (TraceId.ofHighLow s.traceIdHigh.toUInt64 s.traceIdLow.toUInt64)
  let spanId ← idIn .spanId (SpanId.ofWord s.spanId.toUInt64)
  if s.duration.toInt < 0 then throw (.negativeDuration s.duration.toInt)
  let startTime ← instantIn .startTime s.startTime.toInt
  let endTime ← endOfMicros s.startTime s.duration
  let listed ← (s.references.getD []).mapM referenceOfThrift
  let named ←
    if s.parentSpanId = 0 then pure none
    else some <$> idIn .parentSpanId (SpanId.ofWord s.parentSpanId.toUInt64)
  let (parent, references) := withParent traceId named listed
  let events ← (s.logs.getD []).mapM eventOfThrift
  let lifted := Reserved.lift (thriftAttributes (s.tags.getD []))
  pure
    { traceId, spanId, parent, name := s.operationName, kind := lifted.kind, startTime, endTime
      status := lifted.status, attributes := lifted.attributes, references, events }

/-- The outcome of a batch. -/
def ofThrift (b : Thrift.Batch) : Outcome :=
  outcome spanOfThrift (processOfThrift b.process) .jaegerThrift b.spans

end SpanIntake.Intake

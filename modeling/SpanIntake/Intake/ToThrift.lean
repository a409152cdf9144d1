/-
**Thrift batches of trace data.**

Status and kind go out as reserved tags behind the attributes, times and durations in whole
microseconds, process attributes as texts.  A reference of no stated kind goes out as one that
follows from the other span.  Empty lists are left out, except the fields of a log.

Main definitions

* `Intake.toThrift` — the batch of trace data.
-/

import SpanIntake.Thrift.Batch
import SpanIntake.Trace.Reserved
import SpanIntake.Trace.Span

set_option relaxedAutoImplicit false
set_option autoImplicit false

namespace SpanIntake.Intake

/-- The tag of a key and a value, in the type of the value. -/
def tagOf (key : String) : AttributeValue → Thrift.Tag
  | .bool b => .ofBool key b
  | .int n => .ofLong key n
  | .double d => .ofDouble key d
  | .text s => .ofText key s
  | .bytes bs => .ofBinary key bs

/-- The tags of pairs. -/
def tagsOf (xs : List (String × AttributeValue)) : List Thrift.Tag := xs.map fun x => tagOf x.1 x.2

/-- A list, left out where it is empty. -/
def unlessEmpty {α : Type} (xs : List α) : Option (List α) := if xs.isEmpty then none else some xs

/-- A reference. -/
def thriftReference (r : SpanReference) : Thrift.SpanRef :=
  { refType :=
      match r.kind with
      | .childOf => Thrift.RefType.childOf.code
      | .followsFrom | .unspecified => Thrift.RefType.followsFrom.code
    traceIdLow := (TraceId.low r.traceId).toInt64
    traceIdHigh := (TraceId.high r.traceId).toInt64
    spanId := (SpanId.toWord r.spanId).toInt64 }

/-- A log. -/
def thriftLog (e : TimeEvent) : Thrift.Log :=
  ⟨Int64.ofInt e.time.toMicros, tagsOf e.attributes.entries⟩

/-- A span. -/
def thriftSpan (s : Span) : Thrift.Span :=
  { traceIdLow := (TraceId.low s.traceId).toInt64
    traceIdHigh := (TraceId.high s.traceId).toInt64
    spanId := (SpanId.toWord s.spanId).toInt64
    parentSpanId := (s.parent.map fun p => (SpanId.toWord p).toInt64).getD 0
    operationName := s.name
    references := unlessEmpty (s.references.map thriftReference)
    flags := 1
    startTime := Int64.ofInt s.startTime.toMicros
    duration := Int64.ofInt s.durationMicros
    tags := unlessEmpty
      (tagsOf (s.attributes.entries ++ Reserved.tags s.status s.kind s.attributes))
    logs := unlessEmpty (s.events.map thriftLog) }

/-- The batch of trace data. -/
def toThrift (d : TraceData) : Thrift.Batch :=
  { process :=
      { serviceName := d.process.serviceName
        tags := unlessEmpty (tagsOf d.process.attributes.asText.entries) }
    spans := d.spans.map thriftSpan
    seqNo := none }

end SpanIntake.Intake

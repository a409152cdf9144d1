/-
**Trace data.**

The collector's own model, whatever wire format a batch came in: a process with its attributes and
the spans it reported.

Main definitions

* `Span` with its `SpanReference`s and `TimeEvent`s;
* `ProcessInfo`, `SourceFormat` and `TraceData`.
-/

import SpanIntake.Time.Instant
import SpanIntake.Trace.Attribute
import SpanIntake.Trace.Id
import SpanIntake.Trace.Status

set_option relaxedAutoImplicit false
set_option autoImplicit false

namespace SpanIntake

/-- How a span depends on another. -/
inductive ReferenceKind where
  /-- The other span encloses it. -/
  | childOf
  /-- The other span caused it and does not wait. -/
  | followsFrom
  /-- Not stated. -/
  | unspecified
  deriving DecidableEq, Repr

/-- A reference to another span. -/
structure SpanReference where
  /-- The trace of the other span. -/
  traceId : TraceId
  /-- The other span. -/
  spanId : SpanId
  /-- How the span depends on it. -/
  kind : ReferenceKind
  deriving DecidableEq

/-- Something that happened at a point in time. -/
structure TimeEvent where
  /-- When it happened. -/
  time : Instant
  /-- What is known of it. -/
  attributes : Attributes
  deriving DecidableEq

/-- An operation with a beginning and an end. -/
structure Span where
  /-- The trace it belongs to. -/
  traceId : TraceId
  /-- Its identifier. -/
  spanId : SpanId
  /-- The span that encloses it, if any. -/
  parent : Option SpanId
  /-- The name of the operation. -/
  name : String
  /-- Its role in a call. -/
  kind : SpanKind
  /-- When it began. -/
  startTime : Instant
  /-- When it ended. -/
  endTime : Instant
  /-- How it ended. -/
  status : Status
  /-- What else is known of it. -/
  attributes : Attributes
  /-- The spans it depends on. -/
  references : List SpanReference
  /-- What happened in it. -/
  events : List TimeEvent
  deriving DecidableEq

namespace Span

/-- Whether no span encloses it. -/
def isRoot (s : Span) : Bool := s.parent.isNone

/-- Nanoseconds from its beginning to its end. -/
def durationNanos (s : Span) : Int := s.endTime.toNanos - s.startTime.toNanos

/-- Microseconds between beginning and end, each rounded down. -/
def durationMicros (s : Span) : Int := s.endTime.toMicros - s.startTime.toMicros

end Span

/-- The process that reports spans. -/
structure ProcessInfo where
  /-- The name of the service. -/
  serviceName : String
  /-- What else is known of it. -/
  attributes : Attributes
  deriving DecidableEq

/-- The wire format that trace data came in. -/
inductive SourceFormat where
  /-- Jaeger batches in Thrift binary. -/
  | jaegerThrift
  /-- Jaeger batches in protobuf. -/
  | jaegerProto
  deriving DecidableEq, Repr

/-- The name of a format. -/
def SourceFormat.name : SourceFormat → String
  | .jaegerThrift => "jaeger"
  | .jaegerProto => "jaeger-proto"

/-- The format with a name. -/
def SourceFormat.ofName? (s : String) : Option SourceFormat :=
  if s = "jaeger" then some .jaegerThrift
  else if s = "jaeger-proto" then some .jaegerProto
  else none

/-- The spans of one process. -/
structure TraceData where
  /-- The process that reports them. -/
  process : ProcessInfo
  /-- The spans in the order reported. -/
  spans : List Span
  /-- The wire format they came in. -/
  sourceFormat : SourceFormat
  deriving DecidableEq

end SpanIntake

/-
**Exporting trace data.**

All spans of a process go out under one resource and one scope.  The name of the service is the
first attribute of the resource.  References become links, all but the one that the parent says
already; a failure of any kind becomes the one error status that the protocol has.

Main definitions

* `Otlp.ofSpan`, `Otlp.ofTrace` — the exported span and the export request.
-/

import SpanIntake.Otlp.Request
import SpanIntake.Trace.Span

set_option relaxedAutoImplicit false
set_option autoImplicit false

namespace SpanIntake.Otlp

/-- The number of a kind. -/
def kindNumber : SpanKind → Nat
  | .unspecified => 0
  | .server => 2
  | .client => 3
  | .producer => 4
  | .consumer => 5

/-- Whether a reference says no more than the parent of a span. -/
def isParentReference (s : SpanIntake.Span) (r : SpanReference) : Bool :=
  r.kind == .childOf && r.traceId == s.traceId && some r.spanId == s.parent

/-- The links of a span: its references without the one to its parent. -/
def links (s : SpanIntake.Span) : List Link :=
  (s.references.filter fun r => !isParentReference s r).map fun r =>
    ⟨r.traceId.bytes, r.spanId.bytes⟩

/-- An event, named by its attribute `event` where that is a text. -/
def ofEvent (e : TimeEvent) : Event :=
  { time := e.time.exportNanos
    name := ((e.attributes.get? "event").bind AttributeValue.text?).getD "log"
    attributes := e.attributes.entries }

/-- A status. -/
def ofStatus (s : SpanIntake.Status) : Status :=
  if s.isOk then ⟨"", 0⟩ else ⟨s.message, 2⟩

/-- A span. -/
def ofSpan (s : SpanIntake.Span) : Span :=
  { traceId := s.traceId.bytes
    spanId := s.spanId.bytes
    parentSpanId := (s.parent.map (·.bytes)).getD []
    name := s.name
    kind := kindNumber s.kind
    startTime := s.startTime.exportNanos
    endTime := s.endTime.exportNanos
    attributes := s.attributes.entries
    events := s.events.map ofEvent
    links := links s
    status := ofStatus s.status }

/-- The version that exports carry. -/
def version : String := "0.1.0"

/-- The attributes of the resource of a process. -/
def resourceAttributes (p : ProcessInfo) : List KeyValue :=
  ("service.name", .text p.serviceName) :: p.attributes.entries

/-- The export request of trace data. -/
def ofTrace (d : TraceData) : Request :=
  ⟨[{ resource := resourceAttributes d.process
      scopes := [{ scope :=
          { name := "jtrace", version
            attributes := [("jtrace.source_format", .text d.sourceFormat.name)] }
                   spans := d.spans.map ofSpan }] }]⟩

end SpanIntake.Otlp

/-
**The logging consumer.**

Reports each batch, and if asked each span, and accepts all of them.

Main definitions

* `Logging.consumer` — the consumer;
* `Logging.batchEvent`, `Logging.spanEvent` — its reports.
-/

import SpanIntake.Delivery.Consumer

set_option relaxedAutoImplicit false
set_option autoImplicit false

namespace SpanIntake.Logging

/-- The report of a batch. -/
def batchEvent (d : TraceData) : LogEvent :=
  ⟨.info, "trace batch received",
    [("spans", toString d.spans.length), ("service", d.process.serviceName),
     ("source_format", d.sourceFormat.name)]⟩

/-- The duration of a span in whole microseconds, toward zero; zero where it does not fit a signed
64-bit word. -/
def micros (s : Span) : Int :=
  let n := s.durationNanos.tdiv 1000
  if fitsInt64 n then n else 0

/-- The report of a span. -/
def spanEvent (s : Span) : LogEvent :=
  ⟨.debug, "span",
    [("trace_id", s.traceId.toHex), ("span_id", s.spanId.toHex), ("name", s.name),
     ("status", s.status.code.name), ("duration_us", toString (micros s))]⟩

/-- The reports of a batch. -/
def events (verbose : Bool) (d : TraceData) : List LogEvent :=
  batchEvent d :: (if verbose then d.spans.map spanEvent else [])

/-- A consumer that reports what it takes and keeps nothing. -/
def consumer (σ : Type) (verbose : Bool) : Consumer σ :=
  ⟨fun s d => .now s (.ok d.spans.length) (events verbose d)⟩

end SpanIntake.Logging

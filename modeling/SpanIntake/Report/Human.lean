/-
**Trace data for people.**

A batch is shown as a heading, a line for the attributes of the process where it has any, and a
line for each span.  On a terminal the service and the statuses are coloured; the text is the same.

Main definitions

* `Report.human` — the text of trace data, `Report.json` — its one-line JSON text.
-/

import SpanIntake.Text.Quoted
import SpanIntake.Trace.JsonForm

set_option relaxedAutoImplicit false
set_option autoImplicit false

namespace SpanIntake.Report

/-! ### Colours -/

/-- The colours in use. -/
inductive Colour where
  /-- For services. -/
  | cyan
  /-- For success. -/
  | green
  /-- For failures. -/
  | red
  deriving DecidableEq, Repr

/-- The number that switches a colour on. -/
def Colour.code : Colour → String
  | .cyan => "36"
  | .green => "32"
  | .red => "31"

/-- A text in a colour, where colours are wanted. -/
def paint (colours : Bool) (colour : Colour) (s : String) : String :=
  if colours then "\x1b[" ++ colour.code ++ "m" ++ s ++ "\x1b[39m" else s

/-! ### Lines -/

/-- Attributes on one line. -/
def attributes (a : Attributes) : String :=
  String.intercalate " " (a.entries.map fun x => x.1 ++ "=" ++ x.2.toText)

/-- A status: the name of its code, with the message of a failure. -/
def status (colours : Bool) (s : Status) : String :=
  if s.isOk then paint colours .green s.code.name
  else paint colours .red (s.code.name ++ " " ++ Quoted.quote s.message)

/-- The identifier of the parent, a dash where there is none. -/
def parent : Option SpanId → String
  | some p => p.toHex
  | none => "-"

/-- The line of a span. -/
def span (colours : Bool) (s : Span) : String :=
  "  " ++ s.name ++ " trace=" ++ s.traceId.toHex ++ " span=" ++ s.spanId.toHex
    ++ " parent=" ++ parent s.parent
    ++ " start=" ++ Rfc3339.write .six .letter s.startTime
    ++ " duration=" ++ toString (Int.tdiv s.durationNanos 1000000) ++ "ms"
    ++ " status=" ++ status colours s.status
    ++ (if s.attributes.isEmpty then "" else " attrs=" ++ attributes s.attributes)
    ++ (if s.events.isEmpty then "" else " events=" ++ toString s.events.length)

/-- The heading of a batch. -/
def heading (colours : Bool) (d : TraceData) : String :=
  "BATCH service=" ++ paint colours .cyan d.process.serviceName
    ++ " format=" ++ d.sourceFormat.name ++ " spans=" ++ toString d.spans.length

/-- The lines of a batch. -/
def lines (colours : Bool) (d : TraceData) : List String :=
  let process :=
    if d.process.attributes.isEmpty then [] else ["  process " ++ attributes d.process.attributes]
  heading colours d :: (process ++ d.spans.map (span colours))

/-- The text of a batch, without a newline at its end. -/
def human (colours : Bool) (d : TraceData) : String := String.intercalate "\n" (lines colours d)

/-- The JSON text of a batch. -/
def json (d : TraceData) : String := d.toJson.write

end SpanIntake.Report

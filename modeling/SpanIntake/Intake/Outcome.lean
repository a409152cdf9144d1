/-
**From wire batches to trace data.**

A batch is taken span by span.  A span that is no valid one is rejected by its position, and the
others are kept; only a batch without a process is refused as a whole.

Main definitions

* `SpanError` — why a span is rejected, `BatchError` — why a batch is;
* `Outcome` — trace data with the rejections;
* `Intake.sift` — accepted spans and rejections of a list of wire spans.

Main results

* `Intake.length_sift` — every wire span is accepted or rejected.
-/

import SpanIntake.Trace.Span

set_option relaxedAutoImplicit false
set_option autoImplicit false

namespace SpanIntake

/-- Where an identifier of a wire span stands. -/
inductive IdField where
  /-- The span's trace id. -/
  | traceId
  /-- The span's own id. -/
  | spanId
  /-- The id of the enclosing span. -/
  | parentSpanId
  /-- The trace id of a reference. -/
  | referenceTraceId
  /-- The span id of a reference. -/
  | referenceSpanId
  deriving DecidableEq, Repr

/-- The name of the place in messages. -/
def IdField.label : IdField → String
  | .traceId => "trace id"
  | .spanId => "span id"
  | .parentSpanId => "parent span id"
  | .referenceTraceId => "reference trace id"
  | .referenceSpanId => "reference span id"

/-- Where a time of a wire span stands. -/
inductive TimeField where
  /-- The beginning. -/
  | startTime
  /-- The end. -/
  | endTime
  /-- The duration. -/
  | duration
  /-- The time of a log. -/
  | logTime
  deriving DecidableEq, Repr

/-- The name of the place in messages. -/
def TimeField.label : TimeField → String
  | .startTime => "start time"
  | .endTime => "end time"
  | .duration => "duration"
  | .logTime => "log timestamp"

/-- Why a span is rejected. -/
inductive SpanError where
  /-- Bytes or words are no identifier. -/
  | id (field : IdField) (cause : IdError)
  /-- A time is absent. -/
  | missingTime (field : TimeField)
  /-- A time cannot be represented. -/
  | timeOutOfRange (field : TimeField)
  /-- The span ends before it begins. -/
  | negativeDuration (micros : Int)
  deriving DecidableEq, Repr

/-- The message of a rejection. -/
def SpanError.message : SpanError → String
  | .id field cause => s!"invalid {field.label}: {cause.message}"
  | .missingTime field => s!"missing {field.label}"
  | .timeOutOfRange field => s!"{field.label} out of range"
  | .negativeDuration micros => s!"negative duration: {micros}us"

/-- Why a batch is refused as a whole. -/
inductive BatchError where
  /-- No process is named anywhere. -/
  | missingProcess
  deriving DecidableEq, Repr

/-- The message of a refusal. -/
def BatchError.message : BatchError → String
  | .missingProcess => "batch carries no process"

/-- A rejected span. -/
structure Rejection where
  /-- Its position in the wire batch. -/
  index : Nat
  /-- Why it is rejected. -/
  error : SpanError
  deriving DecidableEq, Repr

/-- What comes of a wire batch. -/
structure Outcome where
  /-- The accepted spans with their process. -/
  data : TraceData
  /-- The rejected spans in wire order. -/
  rejected : List Rejection
  deriving DecidableEq

/-- The count of accepted spans. -/
def Outcome.accepted (o : Outcome) : Nat := o.data.spans.length

namespace Intake

/-- Places a missing identifier in a field. -/
def idIn {α : Type} (field : IdField) : Except IdError α → Except SpanError α
  | .ok x => .ok x
  | .error cause => .error (.id field cause)

/-- The accepted spans and the rejections of wire spans, the first of which has the position
`index`. -/
def sift {α : Type} (lift : α → Except SpanError Span) : Nat → List α → List Span × List Rejection
  | _, [] => ([], [])
  | index, x :: xs =>
    let (spans, rejected) := sift lift (index + 1) xs
    match lift x with
    | .ok span => (span :: spans, rejected)
    | .error error => (spans, ⟨index, error⟩ :: rejected)

theorem length_sift {α : Type} (lift : α → Except SpanError Span) (index : Nat) (xs : List α) :
    (sift lift index xs).1.length + (sift lift index xs).2.length = xs.length := by
  induction xs generalizing index with
  | nil => rfl
  | cons x xs ih =>
    have ih := ih (index + 1)
    simp only [sift]
    cases lift x <;> simp only [List.length_cons] <;> omega

/-- The outcome of wire spans under a process. -/
def outcome {α : Type} (lift : α → Except SpanError Span) (process : ProcessInfo)
    (format : SourceFormat) (xs : List α) : Outcome :=
  let (spans, rejected) := sift lift 0 xs
  ⟨⟨process, spans, format⟩, rejected⟩

/-- Whether a reference says that a span of the given trace is enclosed. -/
def isParentIn (traceId : TraceId) (r : SpanReference) : Bool :=
  r.kind == .childOf && r.traceId == traceId

end Intake

end SpanIntake

/-
**Delivery.**

The spans that a batch yields go to the consumer, bounded by a deadline.  Every rejected span is
reported first.  A batch that yields no span never reaches the consumer.

Main definitions

* `RequestError` — why a request fails, with its `message` and its statuses in HTTP and gRPC;
* `Handled` — what comes of a request that succeeds;
* `deliver` — the delivery of one batch.

Main results

* `deliver_of_empty` — without spans, the consumer is left alone and the request succeeds.
-/

import SpanIntake.Delivery.Consumer
import SpanIntake.Intake.Outcome
import SpanIntake.Thrift.Wire

set_option relaxedAutoImplicit false
set_option autoImplicit false

namespace SpanIntake

/-- Why a request fails. -/
inductive RequestError where
  /-- The body is no batch. -/
  | undecodable (error : Thrift.Error)
  /-- The message carries no batch. -/
  | noBatch
  /-- The body is of a type that is not read; no text where the type is not ASCII. -/
  | contentType (type : Option String)
  /-- The batch is refused as a whole. -/
  | batch (error : BatchError)
  /-- The consumer fails. -/
  | consumer (error : ConsumerError)
  /-- The consumer did not end in time. -/
  | deadline (limit : Period)

namespace RequestError

/-- The text of an error. -/
def message : RequestError → String
  | undecodable e => "failed to decode request: " ++ e.message
  | noBatch => "failed to decode request: request carries no batch"
  | contentType type => "unsupported content type: " ++ type.getD "<non-ascii>"
  | batch e => e.message
  | consumer e => e.message
  | deadline limit => "consumer did not finish within " ++ limit.text

/-- Whether the client is to blame. -/
def isClientError : RequestError → Bool
  | undecodable _ | noBatch | contentType _ | batch _ => true
  | consumer _ | deadline _ => false

/-- The status code in HTTP. -/
def httpStatus : RequestError → Nat
  | undecodable _ | noBatch | contentType _ | batch _ => 400
  | consumer (.rejected _) => 500
  | consumer (.unavailable _) | consumer .cancelled => 503
  | deadline _ => 504

/-- The status in gRPC. -/
def grpcStatus (e : RequestError) : Status :=
  let code : StatusCode :=
    match e with
    | undecodable _ | noBatch | contentType _ | batch _ => .invalidArgument
    | consumer (.rejected _) => .internal
    | consumer (.unavailable _) => .unavailable
    | consumer .cancelled => .cancelled
    | deadline _ => .deadlineExceeded
  ⟨code, e.message⟩

end RequestError

/-- What comes of a request that succeeds. -/
structure Handled where
  /-- How many spans the consumer accepted. -/
  accepted : Nat
  /-- The spans that were rejected before. -/
  rejected : List Rejection
  deriving DecidableEq

/-- The report of a rejected span. -/
def Rejection.event (format : SourceFormat) (r : Rejection) : LogEvent :=
  ⟨.warn, "jaeger span rejected",
    [("index", toString r.index), ("error", r.error.message), ("source_format", format.name)]⟩

/-- What a call that was waited for comes to. -/
def Handled.ofResult (rejected : List Rejection) (limit : Period) :
    Option (Except ConsumerError Nat) → Except RequestError Handled
  | none => .error (.deadline limit)
  | some (.error e) => .error (.consumer e)
  | some (.ok n) => .ok ⟨n, rejected⟩

/-- Delivers what a batch yields. -/
def deliver {σ : Type} (c : Consumer σ) (s : σ) (o : Outcome) (limit : Period) :
    Reaction σ (Except RequestError Handled) :=
  let warnings := o.rejected.map (Rejection.event o.data.sourceFormat)
  if o.data.spans.isEmpty then ⟨s, warnings, .ok ⟨0, o.rejected⟩⟩
  else
    let r := (c.call s o.data).within limit
    ⟨r.state, warnings ++ r.events, Handled.ofResult o.rejected limit r.answer⟩

theorem deliver_of_empty {σ : Type} (c : Consumer σ) (s : σ) {o : Outcome} (limit : Period)
    (h : o.data.spans = []) :
    (deliver c s o limit).state = s ∧ (deliver c s o limit).answer = .ok ⟨0, o.rejected⟩ := by
  simp [deliver, h]

end SpanIntake

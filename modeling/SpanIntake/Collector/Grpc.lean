/-
**The gRPC collector.**

Batches in protobuf arrive as messages of calls.  A caller may state how long it waits, and then the
consumer gets no more time than that.

Main definitions

* `Collector.deadline` — how long the consumer may take;
* `Collector.acceptCall`, `Collector.answerMessage` — what is done with a message, and the reply;
* `Collector.grpc` — the reaction to a call;
* `Collector.postSpans` — the status that a client gets for a request.

Main results

* `Collector.deadline_le` — a caller never gives the consumer more time than the limit.
-/

import SpanIntake.Collector.Http
import SpanIntake.Grpc.Frame
import SpanIntake.Grpc.Timeout
import SpanIntake.Intake.OfProtobuf
import SpanIntake.Protobuf.Codec

set_option relaxedAutoImplicit false
set_option autoImplicit false

namespace SpanIntake.Collector

/-- The path of the collector's call. -/
def postSpansPath : String := "/jaeger.api_v2.CollectorService/PostSpans"

/-- The timeout that a caller states. -/
def statedTimeout? (headers : Http.Headers) : Option Period :=
  ((Http.header? "grpc-timeout" headers).bind Http.visible?).bind Grpc.timeout?

/-- How long the consumer may take: no longer than the caller waits, nor than the limit. -/
def deadline (limits : Limits) (headers : Http.Headers) : Period :=
  match statedTimeout? headers with
  | some t => Period.shorter t limits.consumerTimeout
  | none => limits.consumerTimeout

theorem deadline_le (limits : Limits) (headers : Http.Headers) :
    deadline limits headers ≤ limits.consumerTimeout := by
  unfold deadline
  split
  · exact Period.shorter_le_right _ _
  · exact Nat.le_refl _

/-- What a message yields. -/
def readRequest (r : Protobuf.Request) : Except RequestError Outcome :=
  match r.batch with
  | none => .error .noBatch
  | some batch =>
    match Intake.ofProtobuf batch with
    | .error e => .error (.batch e)
    | .ok o => .ok o

/-- What is done with a message. -/
def acceptCall {σ : Type} (c : Consumer σ) (limits : Limits) (s : σ) (headers : Http.Headers)
    (r : Protobuf.Request) : Reaction σ (Except RequestError Handled) :=
  deliverOr c s (deadline limits headers) (readRequest r)

/-- The message of bytes, or the status of a call that sends them. -/
def readMessage (bs : Bytes) : Except Status Protobuf.Request :=
  match Protobuf.decode bs with
  | .ok r => .ok r
  | .error e => .error ⟨.internal, e.message⟩

/-- The message of a call, or the reply to a call without one.  Only the first of several messages
counts, but all have to be sound. -/
def readCall (limits : Limits) (headers : Http.Headers) (frames : Bytes) :
    Except Grpc.Reply Protobuf.Request :=
  match Grpc.compressed? headers with
  | .error reply => .error reply
  | .ok gzip =>
    match Grpc.readMessages gzip limits.maxRequestBytes readMessage frames with
    | .error status => .error (.failure status [])
    | .ok [] => .error (.failure ⟨.internal, "Missing request message."⟩ [])
    | .ok (r :: _) => .ok r

/-- The reply to a call that was handled. -/
def reply : Except RequestError Handled → Grpc.Reply
  | .ok _ => .success (Grpc.frame [])
  | .error e => .failure e.grpcStatus []

/-- The reaction to the message of a call. -/
def answerMessage {σ : Type} (c : Consumer σ) (limits : Limits) (s : σ) (headers : Http.Headers)
    (r : Protobuf.Request) : Reaction σ Grpc.Reply :=
  (acceptCall c limits s headers r).finish (outcomeEvents "grpc") reply

/-- The reaction to a call. -/
def grpc {σ : Type} (c : Consumer σ) (limits : Limits) (s : σ) (target : String)
    (headers : Http.Headers) (frames : Bytes) : Reaction σ Grpc.Reply :=
  if Http.path target ≠ postSpansPath then .silent s (.failure ⟨.unimplemented, ""⟩ [])
  else
    match readCall limits headers frames with
    | .error r => .silent s r
    | .ok request => answerMessage c limits s headers request

/-- The reaction to a call of a client, which may state a timeout. -/
def postSpans {σ : Type} (c : Consumer σ) (limits : Limits) (s : σ) (timeout : Option String)
    (r : Protobuf.Request) : Reaction σ Status :=
  let headers := timeout.toList.map fun t => ("grpc-timeout", Utf8.encode t)
  let call := grpc c limits s postSpansPath headers (Grpc.frame (Protobuf.encode r))
  ⟨call.state, call.events, call.answer.status⟩

end SpanIntake.Collector

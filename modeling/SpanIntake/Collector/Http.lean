/-
**The HTTP collector.**

Batches in Thrift arrive as bodies of requests to one path.  A body over the limit is not read; a
stated type has to be one that Thrift goes by.  Pages of any origin may send batches.

Main definitions

* `Collector.Limits` — what a collector allows;
* `Collector.accept` — what is done with a body;
* `Collector.http` — the reaction to a request.
-/

import SpanIntake.Delivery.Deliver
import SpanIntake.Http.Message
import SpanIntake.Intake.OfThrift
import SpanIntake.Thrift.Codec
import SpanIntake.Text.Blank

set_option relaxedAutoImplicit false
set_option autoImplicit false

namespace SpanIntake.Collector

/-- What a collector allows. -/
structure Limits where
  /-- The size of the largest request. -/
  maxRequestBytes : Nat
  /-- How long a consumer may take for a batch. -/
  consumerTimeout : Period

/-! ### Reports -/

/-- The report of a request that succeeds. -/
def acceptedEvent (name : String) (h : Handled) : LogEvent :=
  ⟨.debug, s!"jaeger {name} spans accepted",
    [("count", toString h.accepted), ("rejected", toString h.rejected.length)]⟩

/-- The report of a request that fails. -/
def failedEvent (name : String) (e : RequestError) : LogEvent :=
  ⟨.warn, s!"jaeger {name} request failed", [("error", e.message)]⟩

/-- The report of a request. -/
def outcomeEvents (name : String) : Except RequestError Handled → List LogEvent
  | .ok h => [acceptedEvent name h]
  | .error e => [failedEvent name e]

/-! ### Bodies -/

/-- The path of the collector. -/
def tracesPath : String := "/api/traces"

/-- The types that Thrift goes by. -/
def thriftTypes : List String := ["application/x-thrift", "application/vnd.apache.thrift.binary"]

/-- The type that a value names before its parameters, in lower case. -/
def mediaType (value : String) : String :=
  String.ofList
    ((Blank.trimChars (value.toList.takeWhile fun c => c ≠ ';')).map Char.toLower)

/-- Whether a body of the stated type is read; one without a type is. -/
def checkType (headers : Http.Headers) : Except RequestError Unit :=
  match Http.header? "content-type" headers with
  | none => .ok ()
  | some value =>
    match Http.visible? value with
    | none => .error (.contentType none)
    | some s =>
      if thriftTypes.contains (mediaType s) then .ok () else .error (.contentType (some s))

/-- What a body yields. -/
def readBody (headers : Http.Headers) (body : Bytes) : Except RequestError Outcome :=
  match checkType headers with
  | .error e => .error e
  | .ok () =>
    match Thrift.decode body with
    | .error e => .error (.undecodable e)
    | .ok batch => .ok (Intake.ofThrift batch)

/-- Delivers what a request yields, or reports why it yields nothing. -/
def deliverOr {σ : Type} (c : Consumer σ) (s : σ) (limit : Period)
    (read : Except RequestError Outcome) : Reaction σ (Except RequestError Handled) :=
  match read with
  | .error e => .silent s (.error e)
  | .ok o => deliver c s o limit

/-- What is done with a body. -/
def accept {σ : Type} (c : Consumer σ) (limits : Limits) (s : σ) (headers : Http.Headers)
    (body : Bytes) : Reaction σ (Except RequestError Handled) :=
  deliverOr c s limits.consumerTimeout (readBody headers body)

/-! ### Responses -/

/-- What lets pages of any origin read a response. -/
def sharing : List (String × String) :=
  [("access-control-allow-origin", "*"),
   ("vary", "origin, access-control-request-method, access-control-request-headers")]

/-- A response with a text. -/
def textResponse (status : Nat) (text : String) : Http.Response :=
  ⟨status,
    ("content-type", "text/plain; charset=utf-8")
      :: ("content-length", toString (Utf8.encode text).length) :: sharing,
    text⟩

/-- A response of the collector without a body. -/
def emptyResponse (status : Nat) (more : List (String × String)) : Http.Response :=
  ⟨status, ("content-length", "0") :: (more ++ sharing), ""⟩

/-- The response to a question about what pages may send. -/
def preflight (path : String) : Http.Response :=
  let more :=
    [("access-control-allow-methods", "POST,OPTIONS"), ("access-control-allow-headers", "*")]
  if path = tracesPath then emptyResponse 200 (("allow", "POST") :: more)
  else ⟨200, more ++ sharing, ""⟩

/-- The response to a request that was handled. -/
def respond : Except RequestError Handled → Http.Response
  | .ok _ => emptyResponse 202 []
  | .error e => textResponse e.httpStatus e.message

/-- The reaction to a request. -/
def http {σ : Type} (c : Consumer σ) (limits : Limits) (s : σ) (r : Http.Request) :
    Reaction σ Http.Response :=
  let path := Http.path r.target
  if r.method = "OPTIONS" then .silent s (preflight path)
  else if path ≠ tracesPath then .silent s ⟨404, sharing, ""⟩
  else if r.method ≠ "POST" then .silent s (emptyResponse 405 [("allow", "POST")])
  else if limits.maxRequestBytes < r.body.length then
    .silent s (textResponse 413 "Failed to buffer the request body: length limit exceeded")
  else (accept c limits s r.headers r.body).finish (outcomeEvents "http") respond

end SpanIntake.Collector

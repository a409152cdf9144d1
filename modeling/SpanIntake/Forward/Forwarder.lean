/-
**Forwarding.**

A batch that is forwarded becomes one request to the other side, and its reply decides what the
consumer says.  Nothing is kept and nothing is tried again.  A call of gRPC whose time is too long
to be stated is not made at all: the program breaks off before anything is sent.

Main definitions

* `Forwarder` and `Forwarder.ofTarget` — what forwards, and setting it up;
* `Forwarder.Outgoing`, `Forwarder.call?` — the call for a batch before it is sent;
* `Forwarder.request?` — the request for a batch;
* `Downstream` — what the other side makes of requests;
* `Forwarder.consumer` — the consumer that forwards.
-/

import SpanIntake.Delivery.Consumer
import SpanIntake.Forward.Headers
import SpanIntake.Grpc.Status
import SpanIntake.Grpc.Timeout
import SpanIntake.Http.Status
import SpanIntake.Net.Uri
import SpanIntake.Net.Url
import SpanIntake.Otlp.OfTrace

set_option relaxedAutoImplicit false
set_option autoImplicit false

namespace SpanIntake

/-- Where requests go. -/
inductive Forward.Route where
  /-- Calls to a server of gRPC. -/
  | grpc (server : Uri)
  /-- Requests to an address of the web. -/
  | http (url : String)
  deriving DecidableEq

/-- What forwards batches. -/
structure Forwarder where
  /-- Where requests go. -/
  route : Forward.Route
  /-- The configured headers that are sent along. -/
  headers : Http.Headers
  /-- How messages are compressed. -/
  compression : Forward.Compression
  /-- How long an exchange may take. -/
  timeout : Period

namespace Forwarder

/-! ### Setting up -/

/-- The characters of an address without slashes at its end. -/
def withoutSlashes (cs : List Char) : List Char := (cs.reverse.dropWhile (· = '/')).reverse

/-- The address that requests of HTTP go to. -/
def tracesUrl (endpoint : String) : String :=
  String.ofList (withoutSlashes endpoint.toList) ++ "/v1/traces"

/-- Where the requests to a target go. -/
def routeOf (t : Forward.Target) : Except ConfigError Forward.Route :=
  match t.protocol with
  | .httpProtobuf => .ok (.http (tracesUrl t.endpoint))
  | .grpc =>
    match Uri.read t.endpoint with
    | .ok server => .ok (.grpc server)
    | .error e => .error (.badForwardEndpoint (Uri.withScheme t.endpoint) e.message)

/-- What forwards to a target. -/
def ofTarget (t : Forward.Target) : Except ConfigError Forwarder :=
  match routeOf t with
  | .error e => .error e
  | .ok route => .ok ⟨route, Forward.sent t.protocol t.headers, t.compression, t.timeout⟩

/-- What setting up reports: the headers that are left out. -/
def setupEvents (t : Forward.Target) : List LogEvent := Forward.ignored t.protocol t.headers

/-! ### Requests -/

/-- A request to the other side. -/
structure Request where
  /-- Where it goes. -/
  route : Forward.Route
  /-- The headers. -/
  headers : Http.Headers
  /-- The message, before it is compressed. -/
  message : Bytes

/-- A header whose value is a text. -/
def textHeader (name value : String) : String × Bytes := (name, Utf8.encode value)

/-- The header that names the compression of a message, if it is compressed. -/
def encodingHeader (name : String) : Forward.Compression → Http.Headers
  | .none => []
  | .gzip => [textHeader name "gzip"]

/-- A call of gRPC before it is sent. -/
structure Outgoing where
  /-- What is sent along. -/
  metadata : Http.Headers
  /-- The message, before it is compressed. -/
  message : Bytes

/-- A call with nothing but its message. -/
def Outgoing.ofMessage (message : Bytes) : Outgoing := ⟨[], message⟩

/-- A call that states how long it may take.  There is none with a period that cannot be stated. -/
def Outgoing.setTimeout? (o : Outgoing) (p : Period) : Option Outgoing :=
  (Grpc.timeoutText? p).map fun t =>
    { o with metadata := Forward.set o.metadata (textHeader "grpc-timeout" t) }

/-- A call with other metadata in place of all that it had. -/
def Outgoing.withMetadata (o : Outgoing) (hs : Http.Headers) : Outgoing := { o with metadata := hs }

/-- The call for a batch.  It states how long it may take before the configured headers take the
place of its metadata. -/
def call? (f : Forwarder) (d : TraceData) : Option Outgoing :=
  ((Outgoing.ofMessage (Otlp.ofTrace d).write).setTimeout? f.timeout).map fun o =>
    o.withMetadata f.headers

/-- The names that gRPC keeps for itself. -/
def reservedNames : List String :=
  ["te", "content-type", "grpc-message", "grpc-message-type", "grpc-status"]

/-- What gRPC says itself. -/
def ownHeaders (c : Forward.Compression) : Http.Headers :=
  [textHeader "te" "trailers", textHeader "content-type" "application/grpc"]
    ++ encodingHeader "grpc-encoding" c ++ encodingHeader "grpc-accept-encoding" c

/-- The headers of a call that is sent: its metadata, and what gRPC says itself. -/
def callHeaders (c : Forward.Compression) (metadata : Http.Headers) : Http.Headers :=
  (ownHeaders c).foldl Forward.set (metadata.filter fun h => !reservedNames.contains h.1)

/-- The headers of a request of HTTP.  A configured type stands in place of the usual one. -/
def postHeaders (f : Forwarder) : Http.Headers :=
  f.headers.foldl Forward.set [textHeader "content-type" "application/x-protobuf"]
    ++ encodingHeader "content-encoding" f.compression

/-- The request for a batch. -/
def request? (f : Forwarder) (d : TraceData) : Option Request :=
  match f.route with
  | .grpc _ =>
    (f.call? d).map fun o => ⟨f.route, callHeaders f.compression o.metadata, o.message⟩
  | .http _ => some ⟨f.route, f.postHeaders, (Otlp.ofTrace d).write⟩

/-! ### Replies -/

/-- What the other side makes of requests; nothing where it cannot be reached. -/
structure Downstream where
  /-- The status code of a response. -/
  post : Request → Option Nat
  /-- The status of a call. -/
  call : Request → Option Status

/-- Another side that cannot be reached. -/
def Downstream.unreachable : Downstream := ⟨fun _ => none, fun _ => none⟩

/-- Why a request of HTTP fails before there is a response. -/
def sendFailure (url : String) : String :=
  match Url.read? url with
  | none => "builder error"
  | some u => s!"error sending request for url ({u.text})"

/-- What the response to a request of HTTP means. -/
def ofResponse (url : String) : Option Nat → Except ConsumerError Unit
  | none => .error (.unavailable s!"POST {url}: {sendFailure url}")
  | some code =>
    let message := s!"POST {url}: {Http.statusText code}"
    if 200 ≤ code && code < 300 then .ok ()
    else if (500 ≤ code && code < 600) || code = 429 then .error (.unavailable message)
    else .error (.rejected message)

/-- What the status of a call means. -/
def ofStatus (s : Status) : Except ConsumerError Unit :=
  match s.code with
  | .ok => .ok ()
  | .unavailable | .resourceExhausted | .deadlineExceeded => .error (.unavailable s.message)
  | .cancelled => .error .cancelled
  | code => .error (.rejected (Grpc.codeWord code ++ ": " ++ s.message))

/-- The status of a call that reaches nobody. -/
def unreachableStatus : Status := ⟨.unavailable, "tcp connect error"⟩

/-- What comes of sending a request.  Nothing is sent to a text that is no address. -/
def exchange (other : Downstream) (r : Request) : Except ConsumerError Unit :=
  match r.route with
  | .grpc _ => ofStatus ((other.call r).getD unreachableStatus)
  | .http url => ofResponse url (if (Url.read? url).isSome then other.post r else none)

/-- The report of a batch that was forwarded. -/
def forwardedEvent (count : Nat) : LogEvent :=
  ⟨.debug, "otlp forward succeeded", [("count", toString count)]⟩

/-- The consumer that forwards.  Where there is no request, its call breaks off and gives no
result. -/
def consumer (σ : Type) (f : Forwarder) (other : Downstream) : Consumer σ :=
  ⟨fun s d =>
    match (f.request? d).map (exchange other) with
    | none => .never s
    | some (.ok ()) => .now s (.ok d.spans.length) [forwardedEvent d.spans.length]
    | some (.error e) => .now s (.error e) []⟩

end Forwarder

end SpanIntake

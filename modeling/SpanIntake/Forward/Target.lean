/-
**Forwarding targets.**

Where batches are forwarded, how, and what is sent along.

Main definitions

* `Forward.Protocol`, `Forward.Compression` — the ways of sending;
* `Forward.Target` and `Forward.Target.ofSettings`.
-/

import SpanIntake.Config.Settings

set_option relaxedAutoImplicit false
set_option autoImplicit false

namespace SpanIntake.Forward

/-- How a request is sent. -/
inductive Protocol where
  /-- A gRPC call. -/
  | grpc
  /-- A request of HTTP whose body is the message. -/
  | httpProtobuf
  deriving DecidableEq, BEq, Repr

/-- How the message is compressed. -/
inductive Compression where
  | none
  | gzip
  deriving DecidableEq, BEq, Repr

/-- The letters of a text in lower case, ASCII letters only. -/
def lower (s : String) : String := String.ofList (s.toList.map Char.toLower)

/-- The protocol of a name; a name that is none means gRPC. -/
def Protocol.ofName (name : String) : Protocol :=
  if ["http", "http/protobuf", "httpprotobuf"].contains (lower name) then httpProtobuf else grpc

/-- The compression of a name; a name that is none means no compression. -/
def Compression.ofName (name : String) : Compression := if lower name = "gzip" then gzip else none

/-- Where batches are forwarded, and how. -/
structure Target where
  /-- The address. -/
  endpoint : String
  /-- How a request is sent. -/
  protocol : Protocol
  /-- How the message is compressed. -/
  compression : Compression
  /-- What is sent along. -/
  headers : List (String × String)
  /-- How long an exchange may take. -/
  timeout : Period
  deriving DecidableEq, BEq

/-- The target that settings name. -/
def Target.ofSettings (s : Settings) : Except ConfigError Target :=
  match s.forwardEndpoint with
  | .none => .error .noForwardEndpoint
  | some endpoint =>
    .ok ⟨endpoint, .ofName s.forwardProtocol, .ofName s.forwardCompression, s.forwardHeaders,
      s.forwardTimeout⟩

end SpanIntake.Forward

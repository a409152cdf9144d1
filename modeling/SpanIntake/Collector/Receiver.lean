/-
**Starting the collectors.**

The enabled collectors bind their addresses, HTTP first; if one cannot, nothing is started.

Main definitions

* `StartError` — why nothing is started, with its `message`;
* `Binder` — what comes of binding an address;
* `Receiver` and `Receiver.start` — the collectors that run.
-/

import SpanIntake.Collector.Listeners

set_option relaxedAutoImplicit false
set_option autoImplicit false

namespace SpanIntake

/-- Why nothing is started. -/
inductive StartError where
  /-- The configuration is at fault. -/
  | config (error : ConfigError)
  /-- An address cannot be bound. -/
  | bind (collector : CollectorKind) (address : SocketAddress) (reason : String)
  deriving DecidableEq

/-- The text of an error. -/
def StartError.message : StartError → String
  | .config e => e.message
  | .bind collector address reason =>
    s!"ingest error: failed to bind collector {collector.label} on {address.text}: {reason}"

/-- What comes of binding an address where others are taken already: the address that was bound, or
a reason. -/
abbrev Binder := List SocketAddress → SocketAddress → Except String SocketAddress

/-- The collectors that run, with the addresses that they bound. -/
structure Receiver where
  /-- The address of the HTTP collector, if it runs. -/
  http : Option SocketAddress
  /-- The address of the gRPC collector, if it runs. -/
  grpc : Option SocketAddress
  deriving DecidableEq

namespace Receiver

/-- Binds the address of a collector, if it is enabled. -/
def bind (binder : Binder) (taken : List SocketAddress) (collector : CollectorKind) :
    Option SocketAddress → Except StartError (Option SocketAddress)
  | none => .ok none
  | some address =>
    match binder taken address with
    | .ok bound => .ok (some bound)
    | .error reason => .error (.bind collector address reason)

/-- Starts the enabled collectors. -/
def start (binder : Binder) (l : Listeners) : Except StartError Receiver :=
  if l.http.isNone && l.grpc.isNone then .error (.config .noCollector)
  else do
    let http ← bind binder [] .http l.http
    let grpc ← bind binder http.toList .grpc l.grpc
    return ⟨http, grpc⟩

end Receiver

end SpanIntake

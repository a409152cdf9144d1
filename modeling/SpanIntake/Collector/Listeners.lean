/-
**Listeners.**

The collectors that the settings ask for, with the addresses where they listen.

Main definitions

* `Listeners` and `Listeners.ofSettings`.
-/

import SpanIntake.Config.Settings
import SpanIntake.Net.Address

set_option relaxedAutoImplicit false
set_option autoImplicit false

namespace SpanIntake

/-- Where the collectors listen, and what they allow. -/
structure Listeners where
  /-- The address of the HTTP collector, if it is enabled. -/
  http : Option SocketAddress
  /-- The address of the gRPC collector, if it is enabled. -/
  grpc : Option SocketAddress
  /-- The size of the largest request. -/
  maxRequestBytes : Nat
  /-- How long a consumer may take for a batch. -/
  consumerTimeout : Period
  deriving DecidableEq, BEq

namespace Listeners

/-- The address of a collector, if it is enabled. -/
def addressOf (kind : CollectorKind) (enabled : Bool) (text : String) :
    Except ConfigError (Option SocketAddress) :=
  if enabled then
    match SocketAddress.parse? text with
    | some a => .ok (some a)
    | none => .error (.badAddress kind text)
  else .ok none

/-- The listeners that settings ask for. -/
def ofSettings (s : Settings) : Except ConfigError Listeners := do
  let http ← addressOf .http s.httpEnabled s.httpAddress
  let grpc ← addressOf .grpc s.grpcEnabled s.grpcAddress
  return ⟨http, grpc, s.maxRequestBytes, s.consumerTimeout⟩

end Listeners

end SpanIntake

/-
**Sinks.**

A sink keeps the batches that it accepts and counts the calls that were given up.  Its mode says how
it answers.

Main definitions

* `Sink` — what a sink has kept;
* `SinkMode` and `SinkMode.consumer` — the ways of answering.
-/

import SpanIntake.Delivery.Logging

set_option relaxedAutoImplicit false
set_option autoImplicit false

namespace SpanIntake

/-- What a sink has kept. -/
structure Sink where
  /-- The batches that it accepted, in order. -/
  batches : List TraceData := []
  /-- How many calls began that do not end. -/
  started : Nat := 0
  /-- How many of them were given up. -/
  dropped : Nat := 0

namespace Sink

/-- How many spans were kept. -/
def spanCount (s : Sink) : Nat := s.batches.foldl (fun n d => n + d.spans.length) 0

/-- A sink that has kept one more batch. -/
def keep (s : Sink) (d : TraceData) : Sink := { s with batches := s.batches ++ [d] }

end Sink

/-- How a sink answers. -/
inductive SinkMode where
  /-- It keeps the batch and accepts all its spans. -/
  | accept
  /-- It keeps the batch and claims to have accepted so many spans. -/
  | count (n : Nat)
  /-- It refuses. -/
  | reject (message : String)
  /-- It is not available. -/
  | unavailable (message : String)
  /-- It cancels. -/
  | cancel
  /-- It never answers. -/
  | pending
  /-- It accepts after a while. -/
  | delay (d : Period)
  /-- It accepts as long as it keeps no more spans than this. -/
  | capacity (n : Nat)
  /-- It only reports. -/
  | logging (verbose : Bool)

namespace SinkMode

/-- What a sink does with a batch. -/
def call (m : SinkMode) (s : Sink) (d : TraceData) : Call Sink :=
  let accepted := d.spans.length
  match m with
  | accept => .now (s.keep d) (.ok accepted) []
  | count n => .now (s.keep d) (.ok n) []
  | reject m => .now s (.error (.rejected m)) []
  | unavailable m => .now s (.error (.unavailable m)) []
  | cancel => .now s (.error .cancelled) []
  | pending =>
    ⟨none, .error .cancelled, [], s, { s with started := s.started + 1, dropped := s.dropped + 1 }⟩
  | delay p => ⟨some p, .ok accepted, [], s.keep d, s⟩
  | capacity n =>
    if n < s.spanCount + accepted then .now s (.error (.unavailable "queue full")) []
    else .now (s.keep d) (.ok accepted) []
  | logging verbose => (Logging.consumer Sink verbose).call s d

/-- The consumer of a mode. -/
def consumer (m : SinkMode) : Consumer Sink := ⟨m.call⟩

end SinkMode

end SpanIntake

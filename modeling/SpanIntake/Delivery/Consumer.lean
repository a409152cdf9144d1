/-
**Consumers.**

A consumer takes batches one by one.  Each call takes some time, or never ends; when its time is up
the caller gives up, and the consumer is left as the abandoned call leaves it.

Main definitions

* `ConsumerError` — how a call fails;
* `Call` — what a consumer does with one batch;
* `Consumer` — a consumer with a state;
* `Call.within` — the reaction to a call under a deadline.
-/

import SpanIntake.Log.Event
import SpanIntake.Time.Period
import SpanIntake.Trace.Span

set_option relaxedAutoImplicit false
set_option autoImplicit false

namespace SpanIntake

/-- How a call of a consumer fails. -/
inductive ConsumerError where
  /-- The batch was processed and refused. -/
  | rejected (message : String)
  /-- The consumer cannot take the batch now. -/
  | unavailable (message : String)
  /-- The call was cancelled. -/
  | cancelled
  deriving DecidableEq, Repr

/-- The text of an error. -/
def ConsumerError.message : ConsumerError → String
  | .rejected m => "consumer rejected batch: " ++ m
  | .unavailable m => "consumer unavailable: " ++ m
  | .cancelled => "consumer call cancelled"

/-- What a consumer does with one batch. -/
structure Call (σ : Type) where
  /-- How long it takes; a call without a duration never ends. -/
  duration : Option Period
  /-- How many spans it accepts, or how it fails. -/
  result : Except ConsumerError Nat
  /-- What it reports when it ends. -/
  events : List LogEvent
  /-- The state when it has ended. -/
  finished : σ
  /-- The state when it is given up before its end. -/
  abandoned : σ

/-- Something that takes batches. -/
structure Consumer (σ : Type) where
  /-- What it does with a batch in a state. -/
  call : σ → TraceData → Call σ

namespace Call

variable {σ : Type}

/-- A call that ends at once. -/
def now (s : σ) (result : Except ConsumerError Nat) (events : List LogEvent) : Call σ :=
  ⟨some ⟨0⟩, result, events, s, s⟩

/-- A call that never ends and leaves the state alone. -/
def never (s : σ) : Call σ := ⟨none, .error .cancelled, [], s, s⟩

/-- Whether a call ends before its caller gives up: one that ends just at the deadline does. -/
def InTime (c : Call σ) (deadline : Period) : Prop :=
  ∃ d, c.duration = some d ∧ d.Within deadline

instance (c : Call σ) (deadline : Period) : Decidable (c.InTime deadline) :=
  match h : c.duration with
  | none => .isFalse (by rintro ⟨d, hd, _⟩; simp [h] at hd)
  | some d =>
    if hd : d.Within deadline then .isTrue ⟨d, h, hd⟩
    else .isFalse (by rintro ⟨e, he, hw⟩; rw [h] at he; cases he; exact hd hw)

/-- The reaction to a call under a deadline: no result if the caller gives up. -/
def within (c : Call σ) (deadline : Period) : Reaction σ (Option (Except ConsumerError Nat)) :=
  if c.InTime deadline then ⟨c.finished, c.events, some c.result⟩ else ⟨c.abandoned, [], none⟩

end Call

end SpanIntake

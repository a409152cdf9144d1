/-
**Log events.**

What the program reports of its work: a level, a message, and named values as text.

Main definitions

* `LogEvent` — an event;
* `Reaction` — an answer together with the state that follows and the events on the way.
-/

set_option relaxedAutoImplicit false
set_option autoImplicit false

namespace SpanIntake

/-- How much an event matters. -/
inductive LogLevel where
  | debug
  | info
  | warn
  deriving DecidableEq, Repr

/-- The name of a level. -/
def LogLevel.name : LogLevel → String
  | debug => "DEBUG"
  | info => "INFO"
  | warn => "WARN"

/-- Something that is reported. -/
structure LogEvent where
  /-- How much it matters. -/
  level : LogLevel
  /-- What happened. -/
  message : String
  /-- The values that go with it. -/
  fields : List (String × String)
  deriving DecidableEq, Repr

/-- What follows from a request: a state, the events on the way and an answer. -/
structure Reaction (σ α : Type) where
  /-- The state afterwards. -/
  state : σ
  /-- What was reported. -/
  events : List LogEvent
  /-- The answer. -/
  answer : α

namespace Reaction

variable {σ α β : Type}

/-- An answer that changes nothing. -/
def silent (s : σ) (a : α) : Reaction σ α := ⟨s, [], a⟩

/-- A reaction with events that follow from its answer, and another answer. -/
def finish (r : Reaction σ α) (events : α → List LogEvent) (f : α → β) : Reaction σ β :=
  ⟨r.state, r.events ++ events r.answer, f r.answer⟩

end Reaction

end SpanIntake

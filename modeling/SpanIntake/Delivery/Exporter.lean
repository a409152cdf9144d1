/-
**Exporters.**

What happens to batches: they are reported, printed or forwarded.  The settings name the exporter
without regard to case.

Main definitions

* `Exporter` and `Exporter.ofSettings` — the exporter that settings name;
* `Exporter.consumer` — the consumer behind it.
-/

import SpanIntake.Delivery.Logging
import SpanIntake.Delivery.Printing
import SpanIntake.Forward.Forwarder

set_option relaxedAutoImplicit false
set_option autoImplicit false

namespace SpanIntake

/-- What happens to batches. -/
inductive Exporter where
  /-- They are reported, each span too if asked. -/
  | logging (verbose : Bool)
  /-- They are printed, as JSON if asked. -/
  | printing (json : Bool)
  /-- They are forwarded. -/
  | forwarding (f : Forwarder)

namespace Exporter

/-- Why there is no exporter. -/
inductive Error where
  /-- No exporter has this name. -/
  | unknown (name : String)
  /-- The configuration of the exporter is at fault. -/
  | config (error : ConfigError)
  deriving DecidableEq

/-- The text of an error. -/
def Error.message : Error → String
  | .unknown name => s!"unknown exporter: {name} (expected logging, stdout or otlp)"
  | .config e => e.message

/-- What forwards as settings say. -/
def forwarderOf (s : Settings) : Except ConfigError Forwarder := do
  Forwarder.ofTarget (← Forward.Target.ofSettings s)

/-- The exporter that settings name. -/
def ofSettings (s : Settings) (json verbose : Bool) : Except Error Exporter :=
  match Forward.lower s.exporter with
  | "logging" => .ok (.logging verbose)
  | "stdout" => .ok (.printing json)
  | "otlp" =>
    match forwarderOf s with
    | .ok f => .ok (.forwarding f)
    | .error e => .error (.config e)
  | name => .error (.unknown name)

/-- The consumer behind an exporter; its state is what was printed. -/
def consumer (e : Exporter) (colours : Bool) (other : Forwarder.Downstream) : Consumer String :=
  match e with
  | .logging verbose => Logging.consumer String verbose
  | .printing json => Printing.consumer json colours
  | .forwarding f => f.consumer String other

end Exporter

end SpanIntake

/-
**The program.**

Either a file is shown, and the program ends, or the collectors are started and the program serves
until it is told to stop.  Arguments override the settings.

Main definitions

* `CommandLine.Surroundings` — what the program finds;
* `CommandLine.showFile` — the showing of a file;
* `CommandLine.serve` — the starting of the collectors;
* `CommandLine.effect` — what comes of arguments.
-/

import SpanIntake.Collector.Receiver
import SpanIntake.CommandLine.Arguments
import SpanIntake.CommandLine.Failure
import SpanIntake.Config.Source
import SpanIntake.Delivery.Exporter
import SpanIntake.Intake.OfThrift
import SpanIntake.Report.Human
import SpanIntake.Thrift.Codec

set_option relaxedAutoImplicit false
set_option autoImplicit false

namespace SpanIntake.CommandLine

/-- What the program finds. -/
structure Surroundings where
  /-- The values of variables. -/
  environment : Environment
  /-- What stands at paths. -/
  files : String → FileContent
  /-- What comes of binding addresses. -/
  binder : Binder

/-! ### Showing a file -/

/-- The bytes of a file, or why there are none. -/
def readFile : FileContent → Except String Bytes
  | .absent => .error "No such file or directory (os error 2)"
  | .blocked => .error "Not a directory (os error 20)"
  | .unseen reason | .unopened reason => .error reason
  | .directory => .error "Is a directory (os error 21)"
  | .bytes bs => .ok bs

/-- The text that shows what a batch yields. -/
def outcomeText (json : Bool) (o : Outcome) : String :=
  if json then Report.json o.data ++ "\n"
  else
    Report.human false o.data ++ "\n"
      ++ (if o.rejected.isEmpty then "" else s!"-- {o.rejected.length} spans rejected --\n")

/-- The text that shows a file. -/
def showFile (json : Bool) (path : String) (content : FileContent) : Except Failure String :=
  match readFile content with
  | .error reason => .error ⟨s!"read {path}", [reason]⟩
  | .ok bs =>
    match Thrift.decode bs with
    | .error e => .error ⟨s!"decode thrift batch from {path}", e.causes⟩
    | .ok batch => .ok (outcomeText json (Intake.ofThrift batch))

/-! ### Serving -/

/-- The settings with the options of the command laid over them. -/
def overridden (s : Settings) (o : RunOptions) : Settings :=
  { s with
    httpAddress := o.httpAddress.getD s.httpAddress
    grpcAddress := o.grpcAddress.getD s.grpcAddress
    httpEnabled := s.httpEnabled && !o.noHttp
    grpcEnabled := s.grpcEnabled && !o.noGrpc
    exporter := o.exporter.getD s.exporter
    forwardEndpoint := o.forwardEndpoint.or s.forwardEndpoint }

/-- The program while it serves. -/
structure Serving where
  /-- The settings. -/
  settings : Settings
  /-- What happens to batches. -/
  exporter : Exporter
  /-- The collectors. -/
  receiver : Receiver

/-- What the program reports when it begins to serve. -/
def Serving.banner (s : Serving) : String :=
  let http :=
    match s.receiver.http with
    | some a => s!"http://{a.text}/api/traces"
    | none => "disabled"
  let grpc :=
    match s.receiver.grpc with
    | some a => a.text
    | none => "disabled"
  s!"jtrace run\n  exporter: {s.settings.exporter}\n"
    ++ s!"  collector http: {http}\n  collector grpc: {grpc}\n"

/-- The failure of a step of the program. -/
def failing {ε α : Type} (context : String) (message : ε → String) :
    Except ε α → Except Failure α
  | .ok a => .ok a
  | .error e => .error ⟨context, [message e]⟩

/-- Begins to serve. -/
def serve (w : Surroundings) (json : Bool) (o : RunOptions) : Except Failure Serving := do
  let env := w.environment
  let loaded ← failing "load config" ConfigError.message
    (Settings.load env (w.files (configPath env)))
  let settings := overridden loaded o
  let exporter ←
    match Exporter.ofSettings settings json o.verbose with
    | .ok e => Except.ok e
    | .error e => .error ⟨e.message, []⟩
  let listeners ← failing "receiver config" ConfigError.message (Listeners.ofSettings settings)
  let receiver ← failing "start receiver" StartError.message (Receiver.start w.binder listeners)
  return ⟨settings, exporter, receiver⟩

/-! ### All together -/

/-- What comes of arguments. -/
inductive Effect where
  /-- The program has ended. -/
  | ended (ending : Ending)
  /-- The program serves until it is told to stop. -/
  | serving (s : Serving)

/-- The ending where nothing was asked for. -/
def Usage.ending : Usage → Ending
  | .help => ⟨0, "", ""⟩
  | .wrong => ⟨2, "", ""⟩

/-- What comes of arguments. -/
def effect (w : Surroundings) (args : List String) : Effect :=
  match Arguments.parse args with
  | .error u => .ended u.ending
  | .ok ⟨.decode path, json⟩ =>
    match showFile json path (w.files path) with
    | .ok text => .ended (.success text)
    | .error f => .ended f.ending
  | .ok ⟨.run o, json⟩ =>
    match serve w json o with
    | .ok s => .serving s
    | .error f => .ended f.ending

end SpanIntake.CommandLine

/-
**Where settings come from.**

A variable of the environment names the configuration file; otherwise it lies below the directory
for configuration.  A file that cannot be found counts as an empty one, but one that is there and
cannot be opened is an error.  Variables override it, as far as their values are texts.

Main definitions

* `Environment` — the values of variables;
* `configPath` — where the configuration file lies;
* `Layer.ofEnvironment`, `Layer.ofTable?` — the layers of the environment and of a document;
* `Settings.ofEnvironment`, `Settings.load` — the settings that result.
-/

import SpanIntake.Config.Settings
import SpanIntake.Text.Utf8
import SpanIntake.Toml.Reader

set_option relaxedAutoImplicit false
set_option autoImplicit false

namespace SpanIntake

/-- The values of variables.  A variable whose value is no text, since its bytes are no UTF-8,
counts as one that is not set: it has no value here. -/
abbrev Environment := String → Option String

/-! ### The environment -/

/-- A truth value. -/
def readBoolean (s : String) : Except ScalarError Bool :=
  if s = "true" then .ok true else if s = "false" then .ok false else .error .notBoolean

/-- One more digit of a number that has to fit an unsigned 64-bit word. -/
def pushDigit (n : Nat) (c : Char) : Except ScalarError Nat :=
  if !c.isDigit then .error .invalidDigit
  else
    let m := n * 10 + (c.toNat - 48)
    if m < UInt64.size then .ok m else .error .numberTooLarge

/-- A number that fits an unsigned 64-bit word; a plus sign may stand before it. -/
def readNumber (s : String) : Except ScalarError Nat :=
  match s.toList with
  | [] => .error .emptyNumber
  | '+' :: c :: cs => (c :: cs).foldlM pushDigit 0
  | cs => cs.foldlM pushDigit 0

/-- The value of a variable that has a type of its own. -/
def typedVariable {α : Type} (env : Environment) (key : String)
    (read : String → Except ScalarError α) : Except ConfigError (Option α) :=
  match env key with
  | none => .ok none
  | some v =>
    match read v with
    | .ok x => .ok (some x)
    | .error e => .error (.badVariable key e)

/-- The layer of the environment. -/
def Layer.ofEnvironment (env : Environment) : Except ConfigError Layer := do
  let httpEnabled ← typedVariable env "JTRACE_HTTP_ENABLED" readBoolean
  let grpcEnabled ← typedVariable env "JTRACE_GRPC_ENABLED" readBoolean
  let maxRequestBytes ← typedVariable env "JTRACE_MAX_REQUEST_BYTES" readNumber
  return {
    httpAddress := env "JTRACE_COLLECTOR_HTTP_ADDR"
    grpcAddress := env "JTRACE_COLLECTOR_GRPC_ADDR"
    httpEnabled, grpcEnabled, maxRequestBytes
    consumerTimeout := env "JTRACE_CONSUMER_TIMEOUT"
    exporter := env "JTRACE_EXPORTER"
    forwardEndpoint := env "JTRACE_FORWARD_OTLP_ENDPOINT"
    forwardProtocol := env "JTRACE_FORWARD_OTLP_PROTOCOL"
    forwardCompression := env "JTRACE_FORWARD_OTLP_COMPRESSION"
    forwardHeaders := env "JTRACE_FORWARD_OTLP_HEADERS"
    forwardTimeout := env "JTRACE_FORWARD_OTLP_TIMEOUT" }

/-! ### The file -/

/-- The text of a value. -/
def textValue? : Toml.Value → Option String
  | .text s => some s
  | _ => none

/-- The truth value of a value. -/
def booleanValue? : Toml.Value → Option Bool
  | .boolean b => some b
  | _ => none

/-- The number of a value, if it is not negative. -/
def numberValue? : Toml.Value → Option Nat
  | .integer n => if 0 ≤ n then some n.toNat else none
  | _ => none

/-- The value of a key; nothing if it has the wrong type, no value if there is no such key. -/
def fieldOf? {α : Type} (entries : List (String × Toml.Value)) (key : String)
    (read? : Toml.Value → Option α) : Option (Option α) :=
  match Toml.lookup? key entries with
  | none => some none
  | some v => (read? v).map some

/-- The layer of a document.  Keys that are no field do not count. -/
def Layer.ofTable? (entries : List (String × Toml.Value)) : Option Layer := do
  let text (key : String) : Option (Option String) := fieldOf? entries key textValue?
  let httpAddress ← text "collector_http_addr"
  let grpcAddress ← text "collector_grpc_addr"
  let httpEnabled ← fieldOf? entries "http_enabled" booleanValue?
  let grpcEnabled ← fieldOf? entries "grpc_enabled" booleanValue?
  let maxRequestBytes ← fieldOf? entries "max_request_bytes" numberValue?
  let consumerTimeout ← text "consumer_timeout"
  let exporter ← text "exporter"
  let forwardEndpoint ← text "forward_otlp_endpoint"
  let forwardProtocol ← text "forward_otlp_protocol"
  let forwardCompression ← text "forward_otlp_compression"
  let forwardHeaders ← text "forward_otlp_headers"
  let forwardTimeout ← text "forward_otlp_timeout"
  return {
    httpAddress, grpcAddress, httpEnabled, grpcEnabled, maxRequestBytes, consumerTimeout, exporter
    forwardEndpoint, forwardProtocol, forwardCompression, forwardHeaders, forwardTimeout }

/-- A path below a directory. -/
def joinPath (directory path : String) : String :=
  if directory.isEmpty || directory.endsWith "/" then directory ++ path
  else directory ++ "/" ++ path

/-- Where the configuration file lies. -/
def configPath (env : Environment) : String :=
  match env "JTRACE_CONFIG" with
  | some path => path
  | none =>
    let base := (env "XDG_CONFIG_HOME").getD (joinPath ((env "HOME").getD ".") ".config")
    joinPath base "jtrace/config.toml"

/-- What stands at a path. -/
inductive FileContent where
  /-- Nothing. -/
  | absent
  /-- Nothing, since the path leads through a file. -/
  | blocked
  /-- Nothing that can be found, for another reason that the system gives, as where a directory of
  the path may not be searched. -/
  | unseen (reason : String)
  /-- A directory. -/
  | directory
  /-- A file that cannot be opened, for a reason that the system gives. -/
  | unopened (reason : String)
  /-- A file with these bytes. -/
  | bytes (bs : Bytes)

/-- The layer of the file at a path; nothing where none is found. -/
def Layer.ofFile (path : String) (content : FileContent) : Except ConfigError (Option Layer) :=
  match content with
  | .absent | .blocked | .unseen _ => .ok none
  | .directory => .error (.unreadable path .isDirectory)
  | .unopened reason => .error (.unreadable path (.notOpened reason))
  | .bytes bs =>
    match Utf8.decode bs with
    | .error _ => .error (.unreadable path .notText)
    | .ok s =>
      match (Toml.read? s).bind Layer.ofTable? with
      | none => .error (.malformed path)
      | some l => .ok (some l)

/-! ### All together -/

namespace Settings

/-- The defaults with the environment laid over them. -/
def ofEnvironment (env : Environment) : Except ConfigError Settings := do
  default.apply (← Layer.ofEnvironment env) .environment

/-- The defaults with the file and then the environment laid over them. -/
def load (env : Environment) (file : FileContent) : Except ConfigError Settings := do
  let settings ←
    match ← Layer.ofFile (configPath env) file with
    | none => pure default
    | some l => default.apply l .file
  settings.apply (← Layer.ofEnvironment env) .environment

end Settings

end SpanIntake

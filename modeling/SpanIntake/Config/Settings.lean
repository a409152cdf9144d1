/-
**Settings.**

The settings of the program have defaults, over which a layer from the configuration file and then
one from the environment are laid.  A layer may leave any field alone.  Periods and lists of headers
are texts in a layer and are read when it is laid.

Main definitions

* `Settings` and `Settings.default`;
* `Layer`, `LayerSource` — values for some fields, and where they come from;
* `Settings.apply` — settings with a layer laid over them;
* `ConfigError` — what can be wrong with a configuration, with its `message`.
-/

import SpanIntake.Config.Headers
import SpanIntake.Time.PeriodReader

set_option relaxedAutoImplicit false
set_option autoImplicit false

namespace SpanIntake

/-- The settings of the program. -/
structure Settings where
  /-- Where the HTTP collector listens. -/
  httpAddress : String
  /-- Where the gRPC collector listens. -/
  grpcAddress : String
  /-- Whether there is an HTTP collector. -/
  httpEnabled : Bool
  /-- Whether there is a gRPC collector. -/
  grpcEnabled : Bool
  /-- The size of the largest request. -/
  maxRequestBytes : Nat
  /-- How long a consumer may take for a batch. -/
  consumerTimeout : Period
  /-- What happens to batches. -/
  exporter : String
  /-- Where batches are forwarded. -/
  forwardEndpoint : Option String
  /-- How batches are forwarded. -/
  forwardProtocol : String
  /-- How forwarded batches are compressed. -/
  forwardCompression : String
  /-- What is sent along with forwarded batches. -/
  forwardHeaders : List (String × String)
  /-- How long a forwarded batch may take. -/
  forwardTimeout : Period
  deriving DecidableEq, BEq

/-- The settings where nothing is configured. -/
def Settings.default : Settings where
  httpAddress := "0.0.0.0:14268"
  grpcAddress := "0.0.0.0:14250"
  httpEnabled := true
  grpcEnabled := true
  maxRequestBytes := 4194304
  consumerTimeout := .ofSeconds 10
  exporter := "logging"
  forwardEndpoint := none
  forwardProtocol := "grpc"
  forwardCompression := "none"
  forwardHeaders := []
  forwardTimeout := .ofSeconds 10

/-! ### Layers -/

/-- Where a layer comes from. -/
inductive LayerSource where
  | file
  | environment
  deriving DecidableEq, Repr

/-- The name of a source in messages. -/
def LayerSource.label : LayerSource → String
  | file => "config file"
  | environment => "environment"

/-- Values for some of the fields. -/
structure Layer where
  /-- Where the HTTP collector listens. -/
  httpAddress : Option String := none
  /-- Where the gRPC collector listens. -/
  grpcAddress : Option String := none
  /-- Whether there is an HTTP collector. -/
  httpEnabled : Option Bool := none
  /-- Whether there is a gRPC collector. -/
  grpcEnabled : Option Bool := none
  /-- The size of the largest request. -/
  maxRequestBytes : Option Nat := none
  /-- The text of the time a consumer may take. -/
  consumerTimeout : Option String := none
  /-- What happens to batches. -/
  exporter : Option String := none
  /-- Where batches are forwarded. -/
  forwardEndpoint : Option String := none
  /-- How batches are forwarded. -/
  forwardProtocol : Option String := none
  /-- How forwarded batches are compressed. -/
  forwardCompression : Option String := none
  /-- The text of the list of headers. -/
  forwardHeaders : Option String := none
  /-- The text of the time a forwarded batch may take. -/
  forwardTimeout : Option String := none
  deriving DecidableEq, BEq

/-! ### Errors -/

/-- A field whose value is the text of a period. -/
inductive TimeoutField where
  | consumer
  | forward
  deriving DecidableEq, Repr

/-- The name of a field in messages. -/
def TimeoutField.label : TimeoutField → String
  | consumer => "consumer_timeout"
  | forward => "forward_otlp_timeout"

/-- One of the two collectors. -/
inductive CollectorKind where
  | http
  | grpc
  deriving DecidableEq, Repr

/-- The name of a collector in messages. -/
def CollectorKind.label : CollectorKind → String
  | http => "HTTP"
  | grpc => "gRPC"

/-- Why a text is no value of the type that its variable has. -/
inductive ScalarError where
  /-- Neither `true` nor `false`. -/
  | notBoolean
  /-- No digits at all. -/
  | emptyNumber
  /-- A character that is no digit. -/
  | invalidDigit
  /-- A number that does not fit an unsigned 64-bit word. -/
  | numberTooLarge
  deriving DecidableEq, Repr

/-- The text of an error. -/
def ScalarError.message : ScalarError → String
  | .notBoolean => "provided string was not `true` or `false`"
  | .emptyNumber => "cannot parse integer from empty string"
  | .invalidDigit => "invalid digit found in string"
  | .numberTooLarge => "number too large to fit in target type"

/-- Why a file that exists cannot be read as text. -/
inductive FileFault where
  | isDirectory
  | notOpened (reason : String)
  | notText
  deriving DecidableEq, Repr

/-- The text of a fault. -/
def FileFault.message : FileFault → String
  | .isDirectory => "Is a directory (os error 21)"
  | .notOpened reason => reason
  | .notText => "stream did not contain valid UTF-8"

/-- What can be wrong with a configuration. -/
inductive ConfigError where
  /-- The file cannot be read. -/
  | unreadable (path : String) (fault : FileFault)
  /-- The text of the file is no document with fields of the right types. -/
  | malformed (path : String)
  /-- The value of a variable has not the type of its field. -/
  | badVariable (key : String) (error : ScalarError)
  /-- The largest request would be empty. -/
  | zeroRequestBytes (source : LayerSource)
  /-- A text is no period. -/
  | badTimeout (field : TimeoutField) (source : LayerSource) (error : Period.TextError)
      (value : String)
  /-- A text is no list of headers. -/
  | badHeaders (source : LayerSource) (error : HeaderList.Error) (value : String)
  /-- A text is no socket address. -/
  | badAddress (collector : CollectorKind) (value : String)
  /-- Neither collector is enabled. -/
  | noCollector
  /-- Batches are to be forwarded, but not said where. -/
  | noForwardEndpoint
  /-- A text is no address to forward to. -/
  | badForwardEndpoint (endpoint : String) (reason : String)
  deriving DecidableEq, Repr

/-- What an error says after the words that all errors begin with. -/
def ConfigError.detail : ConfigError → String
  | .unreadable path fault => s!"failed reading {path}: {fault.message}"
  | .malformed path => s!"failed parsing {path}"
  | .badVariable key e => s!"bad {key} in environment: {e.message}"
  | .zeroRequestBytes source => s!"max_request_bytes in {source.label} must be positive"
  | .badTimeout field source e value =>
    s!"bad {field.label} in {source.label}: {e.message} (value={value})"
  | .badHeaders source e value =>
    s!"bad forward_otlp_headers in {source.label}: configuration error: {e.message} (value={value})"
  | .badAddress collector value =>
    s!"bad collector {collector.label} address {value}: invalid socket address syntax"
  | .noCollector => "at least one of the HTTP or gRPC collector endpoints must be enabled"
  | .noForwardEndpoint => "otlp exporter requires forward_otlp_endpoint"
  | .badForwardEndpoint endpoint reason =>
    s!"invalid gRPC forward endpoint {endpoint}: {reason}"

/-- The text of an error. -/
def ConfigError.message (e : ConfigError) : String := "configuration error: " ++ e.detail

/-! ### Laying a layer over settings -/

/-- The positive size of the largest request, if a layer gives one. -/
def Layer.requestBytes (l : Layer) (source : LayerSource) : Except ConfigError (Option Nat) :=
  match l.maxRequestBytes with
  | none => .ok none
  | some n => if n = 0 then .error (.zeroRequestBytes source) else .ok (some n)

/-- The period of a field, if a layer gives a text for it. -/
def timeoutOf (field : TimeoutField) (source : LayerSource) (value : Option String) :
    Except ConfigError (Option Period) :=
  match value with
  | none => .ok none
  | some v =>
    match Period.parse v with
    | .ok p => .ok (some p)
    | .error e => .error (.badTimeout field source e v)

/-- The headers, if a layer gives a text for them. -/
def headersOf (source : LayerSource) (value : Option String) :
    Except ConfigError (Option (List (String × String))) :=
  match value with
  | none => .ok none
  | some v =>
    match HeaderList.parse v with
    | .ok hs => .ok (some hs)
    | .error e => .error (.badHeaders source e v)

/-- Settings with a layer laid over them.  Of several bad values the first in the order of the
fields is reported. -/
def Settings.apply (s : Settings) (l : Layer) (source : LayerSource) :
    Except ConfigError Settings := do
  let maxRequestBytes ← l.requestBytes source
  let consumerTimeout ← timeoutOf .consumer source l.consumerTimeout
  let forwardHeaders ← headersOf source l.forwardHeaders
  let forwardTimeout ← timeoutOf .forward source l.forwardTimeout
  return {
    httpAddress := l.httpAddress.getD s.httpAddress
    grpcAddress := l.grpcAddress.getD s.grpcAddress
    httpEnabled := l.httpEnabled.getD s.httpEnabled
    grpcEnabled := l.grpcEnabled.getD s.grpcEnabled
    maxRequestBytes := maxRequestBytes.getD s.maxRequestBytes
    consumerTimeout := consumerTimeout.getD s.consumerTimeout
    exporter := l.exporter.getD s.exporter
    forwardEndpoint := l.forwardEndpoint.or s.forwardEndpoint
    forwardProtocol := l.forwardProtocol.getD s.forwardProtocol
    forwardCompression := l.forwardCompression.getD s.forwardCompression
    forwardHeaders := forwardHeaders.getD s.forwardHeaders
    forwardTimeout := forwardTimeout.getD s.forwardTimeout }

end SpanIntake

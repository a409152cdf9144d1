/-
**Statuses of gRPC calls.**

A call ends with a status.  Its message travels in a header, where every byte that is not plain is
written as a percent sign and two digits.

Main definitions

* `Grpc.codeWord` — the name of a code as one word;
* `Grpc.encodeMessage` — a message as the value of a header;
* `Grpc.Reply` — what answers a call, and `Grpc.Reply.failure`, `Grpc.Reply.success`.
-/

import SpanIntake.Text.Percent
import SpanIntake.Trace.Status

set_option relaxedAutoImplicit false
set_option autoImplicit false

namespace SpanIntake.Grpc

/-- The name of a code as one word. -/
def codeWord : StatusCode → String
  | .ok => "Ok"
  | .cancelled => "Cancelled"
  | .unknown => "Unknown"
  | .invalidArgument => "InvalidArgument"
  | .deadlineExceeded => "DeadlineExceeded"
  | .notFound => "NotFound"
  | .alreadyExists => "AlreadyExists"
  | .permissionDenied => "PermissionDenied"
  | .resourceExhausted => "ResourceExhausted"
  | .failedPrecondition => "FailedPrecondition"
  | .aborted => "Aborted"
  | .outOfRange => "OutOfRange"
  | .unimplemented => "Unimplemented"
  | .internal => "Internal"
  | .unavailable => "Unavailable"
  | .dataLoss => "DataLoss"
  | .unauthenticated => "Unauthenticated"

/-! ### Messages in headers -/

/-- Whether a byte stands for itself. -/
def isPlain (b : UInt8) : Bool :=
  32 < b && b < 127
    && !(([34, 35, 37, 60, 62, 63, 96, 123, 125] : Bytes).contains b)

/-- A byte of a message. -/
def encodeByte (b : UInt8) : List Char :=
  if isPlain b then [Char.ofNat b.toNat] else Percent.code b

/-- A message as the value of a header. -/
def encodeMessage (s : String) : String :=
  String.ofList ((Utf8.encode s).flatMap encodeByte)

/-! ### Replies -/

/-- What answers a call. -/
structure Reply where
  /-- The headers. -/
  headers : List (String × String)
  /-- The frames behind them. -/
  frames : Bytes
  /-- The headers behind the frames; absent where the call fails. -/
  trailers : Option (List (String × String))
  /-- The status that all this says. -/
  status : Status

/-- The header that every reply carries. -/
def contentType : String × String := ("content-type", "application/grpc")

/-- The reply to a call that fails, with further headers. -/
def Reply.failure (s : Status) (more : List (String × String)) : Reply where
  headers :=
    contentType :: ("grpc-status", toString s.code.code)
      :: ((if s.message.isEmpty then [] else [("grpc-message", encodeMessage s.message)]) ++ more)
  frames := []
  trailers := none
  status := s

/-- The reply to a call that succeeds with a message. -/
def Reply.success (frames : Bytes) : Reply where
  headers := [contentType]
  frames := frames
  trailers := some [("grpc-status", "0")]
  status := ⟨.ok, ""⟩

end SpanIntake.Grpc

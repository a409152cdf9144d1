/-
**Jaeger batches in protobuf.**

The messages that a client posts: a request carries a batch, a batch has spans and a process, and a
span may have a process of its own.  A field that is left out has its default value; nested
messages may be absent.  Numbers are kept as they came.

Main definitions

* `Protobuf.KeyValue`, `Protobuf.Log`, `Protobuf.SpanRef`, `Protobuf.ProcessInfo`, `Protobuf.Span`,
  `Protobuf.Batch`, `Protobuf.Request`;
* `Protobuf.ValueType`, `Protobuf.RefType` — what type numbers mean.
-/

import SpanIntake.Bytes.Word
import SpanIntake.Decimal.Double

set_option relaxedAutoImplicit false
set_option autoImplicit false

namespace SpanIntake.Protobuf

/-- The type of a value. -/
inductive ValueType where
  /-- A text. -/
  | text
  /-- A truth value. -/
  | bool
  /-- An integer. -/
  | int64
  /-- A double. -/
  | float64
  /-- A byte string. -/
  | binary
  deriving DecidableEq, Repr

/-- The number of a value type. -/
def ValueType.code : ValueType → Int32
  | .text => 0
  | .bool => 1
  | .int64 => 2
  | .float64 => 3
  | .binary => 4

/-- The value type with a number. -/
def ValueType.ofCode? (n : Int32) : Option ValueType :=
  [.text, .bool, .int64, .float64, .binary].find? (·.code == n)

/-- The type of a reference. -/
inductive RefType where
  /-- The other span encloses this one. -/
  | childOf
  /-- The other span caused this one. -/
  | followsFrom
  deriving DecidableEq, Repr

/-- The number of a reference type. -/
def RefType.code : RefType → Int32
  | .childOf => 0
  | .followsFrom => 1

/-- The reference type with a number. -/
def RefType.ofCode? (n : Int32) : Option RefType :=
  [.childOf, .followsFrom].find? (·.code == n)

/-- A key with a value; the type number says which of the values counts. -/
structure KeyValue where
  /-- The key. -/
  key : String := ""
  /-- The number of the value's type. -/
  vType : Int32 := 0
  /-- A text. -/
  vStr : String := ""
  /-- A truth value. -/
  vBool : Bool := false
  /-- An integer. -/
  vInt64 : Int64 := 0
  /-- A double. -/
  vFloat64 : Double := .zero
  /-- A byte string. -/
  vBinary : Bytes := []
  deriving DecidableEq, Repr

/-- Seconds and nanoseconds, of a point in time or of a duration. -/
structure Stamp where
  /-- Whole seconds. -/
  seconds : Int64 := 0
  /-- Nanoseconds on top. -/
  nanos : Int32 := 0
  deriving DecidableEq, Repr

/-- Something that happened during a span. -/
structure Log where
  /-- When. -/
  timestamp : Option Stamp := none
  /-- What is known of it. -/
  fields : List KeyValue := []
  deriving DecidableEq, Repr

/-- A reference to another span. -/
structure SpanRef where
  /-- The other span's trace id. -/
  traceId : Bytes := []
  /-- The other span's id. -/
  spanId : Bytes := []
  /-- The number of the reference's type. -/
  refType : Int32 := 0
  deriving DecidableEq, Repr

/-- The process that reports spans. -/
structure ProcessInfo where
  /-- The name of the service. -/
  serviceName : String := ""
  /-- What else is known of it. -/
  tags : List KeyValue := []
  deriving DecidableEq, Repr

/-- A span. -/
structure Span where
  /-- The trace id. -/
  traceId : Bytes := []
  /-- The span id. -/
  spanId : Bytes := []
  /-- The name of the operation. -/
  operationName : String := ""
  /-- References to other spans. -/
  references : List SpanRef := []
  /-- Flags. -/
  flags : UInt32 := 0
  /-- The beginning. -/
  startTime : Option Stamp := none
  /-- The duration. -/
  duration : Option Stamp := none
  /-- What else is known of it. -/
  tags : List KeyValue := []
  /-- What happened during it. -/
  logs : List Log := []
  /-- The process that reports it. -/
  process : Option ProcessInfo := none
  /-- The identifier of a process. -/
  processId : String := ""
  /-- What the client found odd about it. -/
  warnings : List String := []
  deriving DecidableEq, Repr

/-- Spans and the process that reports them. -/
structure Batch where
  /-- The spans. -/
  spans : List Span := []
  /-- The process. -/
  process : Option ProcessInfo := none
  deriving DecidableEq, Repr

/-- What a client posts. -/
structure Request where
  /-- The batch. -/
  batch : Option Batch := none
  deriving DecidableEq, Repr

namespace KeyValue

/-- A key with a text. -/
def ofText (key value : String) : KeyValue := { key, vType := ValueType.text.code, vStr := value }

/-- A key with a truth value. -/
def ofBool (key : String) (value : Bool) : KeyValue :=
  { key, vType := ValueType.bool.code, vBool := value }

/-- A key with an integer. -/
def ofInt64 (key : String) (value : Int64) : KeyValue :=
  { key, vType := ValueType.int64.code, vInt64 := value }

end KeyValue

end SpanIntake.Protobuf

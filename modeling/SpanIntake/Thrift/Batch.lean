/-
**Jaeger batches in Thrift.**

The records of the Jaeger interface: a batch has a process and spans, a span has references, tags
and logs.  Numbers are kept as they came, also where they name no type, and an absent list is told
apart from an empty one.

Main definitions

* `Thrift.Tag`, `Thrift.Log`, `Thrift.SpanRef`, `Thrift.Span`, `Thrift.ProcessInfo`, `Thrift.Batch`;
* `Thrift.TagType`, `Thrift.RefType` — what type numbers mean.
-/

import SpanIntake.Bytes.Word
import SpanIntake.Decimal.Double

set_option relaxedAutoImplicit false
set_option autoImplicit false

namespace SpanIntake.Thrift

/-- The type of a tag's value. -/
inductive TagType where
  /-- A text. -/
  | text
  /-- A double. -/
  | double
  /-- A truth value. -/
  | bool
  /-- An integer. -/
  | long
  /-- A byte string. -/
  | binary
  deriving DecidableEq, Repr

/-- The number of a tag type. -/
def TagType.code : TagType → Int32
  | .text => 0
  | .double => 1
  | .bool => 2
  | .long => 3
  | .binary => 4

/-- The tag type with a number. -/
def TagType.ofCode? (n : Int32) : Option TagType :=
  [.text, .double, .bool, .long, .binary].find? (·.code == n)

/-- The type of a reference. -/
inductive RefType where
  /-- The other span encloses this one. -/
  | childOf
  /-- The other span caused this one. -/
  | followsFrom
  deriving DecidableEq, Repr

/-- The number of a reference type. -/
def RefType.code : RefType → Int32
  | .childOf => 0
  | .followsFrom => 1

/-- The reference type with a number. -/
def RefType.ofCode? (n : Int32) : Option RefType :=
  [.childOf, .followsFrom].find? (·.code == n)

/-- A key with a value; the type number says which of the values counts. -/
structure Tag where
  /-- The key. -/
  key : String
  /-- The number of the value's type. -/
  vType : Int32
  /-- A text. -/
  vStr : Option String := none
  /-- A double. -/
  vDouble : Option Double := none
  /-- A truth value. -/
  vBool : Option Bool := none
  /-- An integer. -/
  vLong : Option Int64 := none
  /-- A byte string. -/
  vBinary : Option Bytes := none
  deriving DecidableEq, Repr

/-- Something that happened during a span. -/
structure Log where
  /-- When, in microseconds since the epoch. -/
  timestamp : Int64
  /-- What is known of it. -/
  fields : List Tag
  deriving DecidableEq, Repr

/-- A reference to another span. -/
structure SpanRef where
  /-- The number of the reference's type. -/
  refType : Int32
  /-- The low half of the other span's trace id. -/
  traceIdLow : Int64
  /-- The high half of the other span's trace id. -/
  traceIdHigh : Int64
  /-- The other span's id. -/
  spanId : Int64
  deriving DecidableEq, Repr

/-- A span. -/
structure Span where
  /-- The low half of the trace id. -/
  traceIdLow : Int64
  /-- The high half of the trace id. -/
  traceIdHigh : Int64
  /-- The span id. -/
  spanId : Int64
  /-- The id of the enclosing span, zero for none. -/
  parentSpanId : Int64
  /-- The name of the operation. -/
  operationName : String
  /-- References to other spans. -/
  references : Option (List SpanRef)
  /-- Flags. -/
  flags : Int32
  /-- The beginning in microseconds since the epoch. -/
  startTime : Int64
  /-- The duration in microseconds. -/
  duration : Int64
  /-- What else is known of it. -/
  tags : Option (List Tag)
  /-- What happened during it. -/
  logs : Option (List Log)
  deriving DecidableEq, Repr

/-- The process that reports spans. -/
structure ProcessInfo where
  /-- The name of the service. -/
  serviceName : String
  /-- What else is known of it. -/
  tags : Option (List Tag)
  deriving DecidableEq, Repr

/-- The spans of one process. -/
structure Batch where
  /-- The process. -/
  process : ProcessInfo
  /-- The spans. -/
  spans : List Span
  /-- A sequence number. -/
  seqNo : Option Int64
  deriving DecidableEq, Repr

namespace Tag

/-- A tag with a text. -/
def ofText (key value : String) : Tag := { key, vType := TagType.text.code, vStr := some value }

/-- A tag with a double. -/
def ofDouble (key : String) (value : Double) : Tag :=
  { key, vType := TagType.double.code, vDouble := some value }

/-- A tag with a truth value. -/
def ofBool (key : String) (value : Bool) : Tag :=
  { key, vType := TagType.bool.code, vBool := some value }

/-- A tag with an integer. -/
def ofLong (key : String) (value : Int64) : Tag :=
  { key, vType := TagType.long.code, vLong := some value }

/-- A tag with a byte string. -/
def ofBinary (key : String) (value : Bytes) : Tag :=
  { key, vType := TagType.binary.code, vBinary := some value }

end Tag

/-- The lists of a span, by their lengths in the order they are written. -/
def Span.listLengths (s : Span) : List Nat :=
  s.references.toList.map List.length ++ s.tags.toList.map List.length
    ++ s.logs.toList.flatMap fun logs => logs.length :: logs.map fun log => log.fields.length

/-- The lists of a batch, by their lengths in the order they are written. -/
def Batch.listLengths (b : Batch) : List Nat :=
  b.process.tags.toList.map List.length ++ b.spans.length :: b.spans.flatMap Span.listLengths

end SpanIntake.Thrift

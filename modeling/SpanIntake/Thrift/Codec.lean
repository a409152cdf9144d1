/-
**Reading and writing Thrift batches.**

Every record is read by its field loop into a draft, in which a later field replaces an earlier
one of the same id and type.  Fields with an unknown id, or a known id and another type, are passed
over.  When the record is closed its required fields are looked up in the order they are declared.
Writing puts the fields in that order.

Main definitions

* `Thrift.decode` — the batch that bytes begin with, `Thrift.readBatch` — the same with the rest;
* `Thrift.encode` — the bytes of a batch, unless one of its lists is too long for its size field.
-/

import SpanIntake.Thrift.Batch
import SpanIntake.Thrift.Wire

set_option relaxedAutoImplicit false
set_option autoImplicit false

namespace SpanIntake.Thrift

/-! ### Tags -/

/-- A tag while its fields are read. -/
structure TagDraft where
  /-- The key. -/
  key : Option String := none
  /-- The number of the value's type. -/
  vType : Option Int32 := none
  /-- A text. -/
  vStr : Option String := none
  /-- A double. -/
  vDouble : Option Double := none
  /-- A truth value. -/
  vBool : Option Bool := none
  /-- An integer. -/
  vLong : Option Int64 := none
  /-- A byte string. -/
  vBinary : Option Bytes := none

/-- Reads one field of a tag. -/
def TagDraft.step (d : TagDraft) (id : Int) (type : WireType) : Reader TagDraft :=
  match id, type with
  | 1, .string => return { d with key := some (← text) }
  | 2, .i32 => return { d with vType := some (← int32) }
  | 3, .string => return { d with vStr := some (← text) }
  | 4, .double => return { d with vDouble := some (← double) }
  | 5, .bool => return { d with vBool := some (← bool) }
  | 6, .i64 => return { d with vLong := some (← int64) }
  | 7, .string => return { d with vBinary := some (← bytes) }
  | _, _ => do skip maxDepth type; pure d

/-- The tag of a draft. -/
def TagDraft.finish (d : TagDraft) : Reader Tag := do
  let key ← required "Tag" "key" d.key
  let vType ← required "Tag" "vType" d.vType
  pure ⟨key, vType, d.vStr, d.vDouble, d.vBool, d.vLong, d.vBinary⟩

/-- Reads a tag. -/
def readTag : Reader Tag := do (← fields TagDraft.step {}).finish

/-- Writes a tag. -/
def writeTag (t : Tag) : Bytes :=
  writeHead .string 1 ++ writeText t.key
    ++ (writeHead .i32 2 ++ writeInt32 t.vType)
    ++ writeOptional .string 3 writeText t.vStr
    ++ writeOptional .double 4 writeDouble t.vDouble
    ++ writeOptional .bool 5 writeBool t.vBool
    ++ writeOptional .i64 6 writeInt64 t.vLong
    ++ writeOptional .string 7 writeBytes t.vBinary
    ++ stop

/-! ### Logs -/

/-- A log while its fields are read. -/
structure LogDraft where
  /-- When, in microseconds since the epoch. -/
  timestamp : Option Int64 := none
  /-- What is known of it. -/
  fields : Option (List Tag) := none

/-- Reads one field of a log. -/
def LogDraft.step (d : LogDraft) (id : Int) (type : WireType) : Reader LogDraft :=
  match id, type with
  | 1, .i64 => return { d with timestamp := some (← int64) }
  | 2, .list => return { d with fields := some (← listOf readTag) }
  | _, _ => do skip maxDepth type; pure d

/-- The log of a draft. -/
def LogDraft.finish (d : LogDraft) : Reader Log := do
  let timestamp ← required "Log" "timestamp" d.timestamp
  let fields ← required "Log" "fields" d.fields
  pure ⟨timestamp, fields⟩

/-- Reads a log. -/
def readLog : Reader Log := do (← fields LogDraft.step {}).finish

/-- Writes a log. -/
def writeLog (l : Log) : Bytes :=
  writeHead .i64 1 ++ writeInt64 l.timestamp
    ++ (writeHead .list 2 ++ writeList writeTag l.fields)
    ++ stop

/-! ### References -/

/-- A reference while its fields are read. -/
structure SpanRefDraft where
  /-- The number of the reference's type. -/
  refType : Option Int32 := none
  /-- The low half of the trace id. -/
  traceIdLow : Option Int64 := none
  /-- The high half of the trace id. -/
  traceIdHigh : Option Int64 := none
  /-- The span id. -/
  spanId : Option Int64 := none

/-- Reads one field of a reference. -/
def SpanRefDraft.step (d : SpanRefDraft) (id : Int) (type : WireType) : Reader SpanRefDraft :=
  match id, type with
  | 1, .i32 => return { d with refType := some (← int32) }
  | 2, .i64 => return { d with traceIdLow := some (← int64) }
  | 3, .i64 => return { d with traceIdHigh := some (← int64) }
  | 4, .i64 => return { d with spanId := some (← int64) }
  | _, _ => do skip maxDepth type; pure d

/-- The reference of a draft. -/
def SpanRefDraft.finish (d : SpanRefDraft) : Reader SpanRef := do
  let refType ← required "SpanRef" "refType" d.refType
  let traceIdLow ← required "SpanRef" "traceIdLow" d.traceIdLow
  let traceIdHigh ← required "SpanRef" "traceIdHigh" d.traceIdHigh
  let spanId ← required "SpanRef" "spanId" d.spanId
  pure ⟨refType, traceIdLow, traceIdHigh, spanId⟩

/-- Reads a reference. -/
def readSpanRef : Reader SpanRef := do (← fields SpanRefDraft.step {}).finish

/-- Writes a reference. -/
def writeSpanRef (r : SpanRef) : Bytes :=
  writeHead .i32 1 ++ writeInt32 r.refType
    ++ (writeHead .i64 2 ++ writeInt64 r.traceIdLow)
    ++ (writeHead .i64 3 ++ writeInt64 r.traceIdHigh)
    ++ (writeHead .i64 4 ++ writeInt64 r.spanId)
    ++ stop

/-! ### Spans -/

/-- A span while its fields are read. -/
structure SpanDraft where
  /-- The low half of the trace id. -/
  traceIdLow : Option Int64 := none
  /-- The high half of the trace id. -/
  traceIdHigh : Option Int64 := none
  /-- The span id. -/
  spanId : Option Int64 := none
  /-- The id of the enclosing span. -/
  parentSpanId : Option Int64 := none
  /-- The name of the operation. -/
  operationName : Option String := none
  /-- References to other spans. -/
  references : Option (List SpanRef) := none
  /-- Flags. -/
  flags : Option Int32 := none
  /-- The beginning. -/
  startTime : Option Int64 := none
  /-- The duration. -/
  duration : Option Int64 := none
  /-- What else is known of it. -/
  tags : Option (List Tag) := none
  /-- What happened during it. -/
  logs : Option (List Log) := none

/-- Reads one field of a span. -/
def SpanDraft.step (d : SpanDraft) (id : Int) (type : WireType) : Reader SpanDraft :=
  match id, type with
  | 1, .i64 => return { d with traceIdLow := some (← int64) }
  | 2, .i64 => return { d with traceIdHigh := some (← int64) }
  | 3, .i64 => return { d with spanId := some (← int64) }
  | 4, .i64 => return { d with parentSpanId := some (← int64) }
  | 5, .string => return { d with operationName := some (← text) }
  | 6, .list => return { d with references := some (← listOf readSpanRef) }
  | 7, .i32 => return { d with flags := some (← int32) }
  | 8, .i64 => return { d with startTime := some (← int64) }
  | 9, .i64 => return { d with duration := some (← int64) }
  | 10, .list => return { d with tags := some (← listOf readTag) }
  | 11, .list => return { d with logs := some (← listOf readLog) }
  | _, _ => do skip maxDepth type; pure d

/-- The span of a draft. -/
def SpanDraft.finish (d : SpanDraft) : Reader Span := do
  let traceIdLow ← required "Span" "traceIdLow" d.traceIdLow
  let traceIdHigh ← required "Span" "traceIdHigh" d.traceIdHigh
  let spanId ← required "Span" "spanId" d.spanId
  let parentSpanId ← required "Span" "parentSpanId" d.parentSpanId
  let operationName ← required "Span" "operationName" d.operationName
  let flags ← required "Span" "flags" d.flags
  let startTime ← required "Span" "startTime" d.startTime
  let duration ← required "Span" "duration" d.duration
  pure ⟨traceIdLow, traceIdHigh, spanId, parentSpanId, operationName, d.references, flags,
    startTime, duration, d.tags, d.logs⟩

/-- Reads a span. -/
def readSpan : Reader Span := do (← fields SpanDraft.step {}).finish

/-- Writes a span. -/
def writeSpan (s : Span) : Bytes :=
  writeHead .i64 1 ++ writeInt64 s.traceIdLow
    ++ (writeHead .i64 2 ++ writeInt64 s.traceIdHigh)
    ++ (writeHead .i64 3 ++ writeInt64 s.spanId)
    ++ (writeHead .i64 4 ++ writeInt64 s.parentSpanId)
    ++ (writeHead .string 5 ++ writeText s.operationName)
    ++ writeOptional .list 6 (writeList writeSpanRef) s.references
    ++ (writeHead .i32 7 ++ writeInt32 s.flags)
    ++ (writeHead .i64 8 ++ writeInt64 s.startTime)
    ++ (writeHead .i64 9 ++ writeInt64 s.duration)
    ++ writeOptional .list 10 (writeList writeTag) s.tags
    ++ writeOptional .list 11 (writeList writeLog) s.logs
    ++ stop

/-! ### Processes -/

/-- A process while its fields are read. -/
structure ProcessDraft where
  /-- The name of the service. -/
  serviceName : Option String := none
  /-- What else is known of it. -/
  tags : Option (List Tag) := none

/-- Reads one field of a process. -/
def ProcessDraft.step (d : ProcessDraft) (id : Int) (type : WireType) : Reader ProcessDraft :=
  match id, type with
  | 1, .string => return { d with serviceName := some (← text) }
  | 2, .list => return { d with tags := some (← listOf readTag) }
  | _, _ => do skip maxDepth type; pure d

/-- The process of a draft. -/
def ProcessDraft.finish (d : ProcessDraft) : Reader ProcessInfo := do
  let serviceName ← required "Process" "serviceName" d.serviceName
  pure ⟨serviceName, d.tags⟩

/-- Reads a process. -/
def readProcess : Reader ProcessInfo := do (← fields ProcessDraft.step {}).finish

/-- Writes a process. -/
def writeProcess (p : ProcessInfo) : Bytes :=
  writeHead .string 1 ++ writeText p.serviceName
    ++ writeOptional .list 2 (writeList writeTag) p.tags
    ++ stop

/-! ### Batches -/

/-- A batch while its fields are read. -/
structure BatchDraft where
  /-- The process. -/
  process : Option ProcessInfo := none
  /-- The spans. -/
  spans : Option (List Span) := none
  /-- A sequence number. -/
  seqNo : Option Int64 := none

/-- Reads one field of a batch. -/
def BatchDraft.step (d : BatchDraft) (id : Int) (type : WireType) : Reader BatchDraft :=
  match id, type with
  | 1, .struct => return { d with process := some (← readProcess) }
  | 2, .list => return { d with spans := some (← listOf readSpan) }
  | 3, .i64 => return { d with seqNo := some (← int64) }
  | _, _ => do skip maxDepth type; pure d

/-- The batch of a draft. -/
def BatchDraft.finish (d : BatchDraft) : Reader Batch := do
  let process ← required "Batch" "process" d.process
  let spans ← required "Batch" "spans" d.spans
  pure ⟨process, spans, d.seqNo⟩

/-- Reads a batch. -/
def readBatch : Reader Batch := do (← fields BatchDraft.step {}).finish

/-- Writes a batch. -/
def writeBatch (b : Batch) : Bytes :=
  writeHead .struct 1 ++ writeProcess b.process
    ++ (writeHead .list 2 ++ writeList writeSpan b.spans)
    ++ writeOptional .i64 3 writeInt64 b.seqNo
    ++ stop

/-- The batch that bytes begin with. -/
def decode (bs : Bytes) : Except Error Batch := (readBatch.run bs).map (·.1)

/-- The size that no list reaches, since sizes are signed 32-bit words. -/
def listLimit : Nat := 2147483648

/-- The bytes of a batch. -/
def encode (b : Batch) : Except Error Bytes :=
  match b.listLengths.find? (listLimit ≤ ·) with
  | some length => .error (.listTooLong length)
  | none => .ok (writeBatch b)

end SpanIntake.Thrift

/-
**Reading and writing protobuf batches.**

Each message is read field by field into what was read of it before: a field that comes again
replaces a plain value, adds to a list, and is read into a nested message that is there already.
Unknown fields are passed over.  Writing puts fields in the order of their numbers and leaves
defaults out.

Main definitions

* `Protobuf.decode` — the request that bytes spell;
* `Protobuf.encode` — the bytes of a request.
-/

import SpanIntake.Protobuf.Batch
import SpanIntake.Protobuf.Wire

set_option relaxedAutoImplicit false
set_option autoImplicit false

namespace SpanIntake.Protobuf

/-! ### Keys with values -/

/-- Reads one field of a key with a value. -/
def KeyValue.step (depth : Nat) (m : KeyValue) (tag : Nat) (type : WireType) : Reader KeyValue :=
  match tag with
  | 1 => inField "KeyValue" "key" do return { m with key := ← textField type }
  | 2 => inField "KeyValue" "v_type" do return { m with vType := ← int32Field type }
  | 3 => inField "KeyValue" "v_str" do return { m with vStr := ← textField type }
  | 4 => inField "KeyValue" "v_bool" do return { m with vBool := ← boolField type }
  | 5 => inField "KeyValue" "v_int64" do return { m with vInt64 := ← int64Field type }
  | 6 => inField "KeyValue" "v_float64" do return { m with vFloat64 := ← doubleField type }
  | 7 => inField "KeyValue" "v_binary" do return { m with vBinary := ← bytesField type }
  | _ => do skip depth tag type; pure m

/-- Writes a key with a value. -/
def KeyValue.write (m : KeyValue) : Bytes :=
  writeText 1 m.key ++ writeInt32 2 m.vType ++ writeText 3 m.vStr ++ writeBool 4 m.vBool
    ++ writeInt64 5 m.vInt64 ++ writeDouble 6 m.vFloat64 ++ writeBytes 7 m.vBinary

/-! ### Points in time and durations -/

/-- Reads one field of seconds and nanoseconds in a message of the given name. -/
def Stamp.step (record : String) (depth : Nat) (m : Stamp) (tag : Nat) (type : WireType) :
    Reader Stamp :=
  match tag with
  | 1 => inField record "seconds" do return { m with seconds := ← int64Field type }
  | 2 => inField record "nanos" do return { m with nanos := ← int32Field type }
  | _ => do skip depth tag type; pure m

/-- Writes seconds and nanoseconds. -/
def Stamp.write (m : Stamp) : Bytes := writeInt64 1 m.seconds ++ writeInt32 2 m.nanos

/-! ### Logs -/

/-- Reads one field of a log. -/
def Log.step (depth : Nat) (m : Log) (tag : Nat) (type : WireType) : Reader Log :=
  match tag with
  | 1 => inField "Log" "timestamp" do
    return { m with
      timestamp := some (← message (Stamp.step "Timestamp") depth type (m.timestamp.getD {})) }
  | 2 => inField "Log" "fields" do
    return { m with fields := m.fields ++ [← message KeyValue.step depth type {}] }
  | _ => do skip depth tag type; pure m

/-- Writes a log. -/
def Log.write (m : Log) : Bytes :=
  writeMessage 1 Stamp.write m.timestamp ++ writeMessages 2 KeyValue.write m.fields

/-! ### References -/

/-- Reads one field of a reference. -/
def SpanRef.step (depth : Nat) (m : SpanRef) (tag : Nat) (type : WireType) : Reader SpanRef :=
  match tag with
  | 1 => inField "SpanRef" "trace_id" do return { m with traceId := ← bytesField type }
  | 2 => inField "SpanRef" "span_id" do return { m with spanId := ← bytesField type }
  | 3 => inField "SpanRef" "ref_type" do return { m with refType := ← int32Field type }
  | _ => do skip depth tag type; pure m

/-- Writes a reference. -/
def SpanRef.write (m : SpanRef) : Bytes :=
  writeBytes 1 m.traceId ++ writeBytes 2 m.spanId ++ writeInt32 3 m.refType

/-! ### Processes -/

/-- Reads one field of a process. -/
def ProcessInfo.step (depth : Nat) (m : ProcessInfo) (tag : Nat) (type : WireType) :
    Reader ProcessInfo :=
  match tag with
  | 1 => inField "Process" "service_name" do return { m with serviceName := ← textField type }
  | 2 => inField "Process" "tags" do
    return { m with tags := m.tags ++ [← message KeyValue.step depth type {}] }
  | _ => do skip depth tag type; pure m

/-- Writes a process. -/
def ProcessInfo.write (m : ProcessInfo) : Bytes :=
  writeText 1 m.serviceName ++ writeMessages 2 KeyValue.write m.tags

/-! ### Spans -/

/-- Reads one field of a span. -/
def Span.step (depth : Nat) (m : Span) (tag : Nat) (type : WireType) : Reader Span :=
  match tag with
  | 1 => inField "Span" "trace_id" do return { m with traceId := ← bytesField type }
  | 2 => inField "Span" "span_id" do return { m with spanId := ← bytesField type }
  | 3 => inField "Span" "operation_name" do return { m with operationName := ← textField type }
  | 4 => inField "Span" "references" do
    return { m with references := m.references ++ [← message SpanRef.step depth type {}] }
  | 5 => inField "Span" "flags" do return { m with flags := ← uint32Field type }
  | 6 => inField "Span" "start_time" do
    return { m with
      startTime := some (← message (Stamp.step "Timestamp") depth type (m.startTime.getD {})) }
  | 7 => inField "Span" "duration" do
    return { m with
      duration := some (← message (Stamp.step "Duration") depth type (m.duration.getD {})) }
  | 8 => inField "Span" "tags" do
    return { m with tags := m.tags ++ [← message KeyValue.step depth type {}] }
  | 9 => inField "Span" "logs" do
    return { m with logs := m.logs ++ [← message Log.step depth type {}] }
  | 10 => inField "Span" "process" do
    return { m with process := some (← message ProcessInfo.step depth type (m.process.getD {})) }
  | 11 => inField "Span" "process_id" do return { m with processId := ← textField type }
  | 12 => inField "Span" "warnings" do
    return { m with warnings := m.warnings ++ [← textField type] }
  | _ => do skip depth tag type; pure m

/-- Writes a span. -/
def Span.write (m : Span) : Bytes :=
  writeBytes 1 m.traceId ++ writeBytes 2 m.spanId ++ writeText 3 m.operationName
    ++ writeMessages 4 SpanRef.write m.references ++ writeUInt32 5 m.flags
    ++ writeMessage 6 Stamp.write m.startTime ++ writeMessage 7 Stamp.write m.duration
    ++ writeMessages 8 KeyValue.write m.tags ++ writeMessages 9 Log.write m.logs
    ++ writeMessage 10 ProcessInfo.write m.process ++ writeText 11 m.processId
    ++ m.warnings.flatMap (writeTextField 12)

/-! ### Batches and requests -/

/-- Reads one field of a batch. -/
def Batch.step (depth : Nat) (m : Batch) (tag : Nat) (type : WireType) : Reader Batch :=
  match tag with
  | 1 => inField "Batch" "spans" do
    return { m with spans := m.spans ++ [← message Span.step depth type {}] }
  | 2 => inField "Batch" "process" do
    return { m with process := some (← message ProcessInfo.step depth type (m.process.getD {})) }
  | _ => do skip depth tag type; pure m

/-- Writes a batch. -/
def Batch.write (m : Batch) : Bytes :=
  writeMessages 1 Span.write m.spans ++ writeMessage 2 ProcessInfo.write m.process

/-- Reads one field of a request. -/
def Request.step (depth : Nat) (m : Request) (tag : Nat) (type : WireType) : Reader Request :=
  match tag with
  | 1 => inField "PostSpansRequest" "batch" do
    return { m with batch := some (← message Batch.step depth type (m.batch.getD {})) }
  | _ => do skip depth tag type; pure m

/-- Writes a request. -/
def Request.write (m : Request) : Bytes := writeMessage 1 Batch.write m.batch

/-- The request that bytes spell. -/
def decode (bs : Bytes) : Except Error Request :=
  ((fields (Request.step maxDepth) {}).run bs).map (·.1)

/-- The bytes of a request. -/
def encode (r : Request) : Bytes := r.write

end SpanIntake.Protobuf

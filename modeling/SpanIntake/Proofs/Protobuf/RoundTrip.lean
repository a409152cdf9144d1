/-
**What is written is read back.**

A request is a tree of messages, and every message is written in the order of its field numbers.
From the empty message on, its fields fill in what the message says, one after the other, so that
it comes out as it was: an absent nested message stays apart from an empty one, and a list keeps
every item, the empty ones too.  One thing is lost.  A double is left out where it equals zero, and
so does the zero with a minus sign.

Main definitions:

* `Double.plainZero`, `Protobuf.Request.plainZeros` and its like — zeros without their signs.

Main results:

* `Protobuf.fills_keyValue`, `Protobuf.fills_log`, `Protobuf.fills_span` and their like — the fields
  of each message fill it in;
* `Protobuf.decode_encode_plainZeros` — **a request is read back from its bytes**, but for the signs
  of its zeros.
-/

import SpanIntake.Proofs.Protobuf.Reading

set_option relaxedAutoImplicit false
set_option autoImplicit false

namespace SpanIntake

/-- A zero without its sign; any other double as it is. -/
def Double.plainZero (d : Double) : Double := if d.isZero then .zero else d

namespace Protobuf

/-! ### Zeros without signs -/

/-- The double without the sign of a zero. -/
def KeyValue.plainZeros (m : KeyValue) : KeyValue := { m with vFloat64 := m.vFloat64.plainZero }

/-- The doubles of all fields without the signs of zeros. -/
def Log.plainZeros (m : Log) : Log := { m with fields := m.fields.map KeyValue.plainZeros }

/-- The doubles of all tags without the signs of zeros. -/
def ProcessInfo.plainZeros (m : ProcessInfo) : ProcessInfo :=
  { m with tags := m.tags.map KeyValue.plainZeros }

/-- The doubles in tags, logs and process without the signs of zeros. -/
def Span.plainZeros (m : Span) : Span :=
  { m with
    tags := m.tags.map KeyValue.plainZeros
    logs := m.logs.map Log.plainZeros
    process := m.process.map ProcessInfo.plainZeros }

/-- The doubles in spans and process without the signs of zeros. -/
def Batch.plainZeros (m : Batch) : Batch where
  spans := m.spans.map Span.plainZeros
  process := m.process.map ProcessInfo.plainZeros

/-- The doubles of a request without the signs of zeros. -/
def Request.plainZeros (m : Request) : Request := ⟨m.batch.map Batch.plainZeros⟩

/-! ### Messages without messages in them -/

theorem fills_keyValue (depth : Nat) (m : KeyValue) :
    Fills (KeyValue.step depth) m.write {} m.plainZeros := by
  -- the fields are taken off from the last one, and those behind it have their defaults
  refine .append ?_ (.bytes (fun v => (⟨m.key, m.vType, m.vStr, m.vBool, m.vInt64,
    m.vFloat64.plainZero, v⟩ : KeyValue)) m.vBinary rfl (by decide) fun _ => rfl)
  refine .append ?_ (.double (fun v => (⟨m.key, m.vType, m.vStr, m.vBool, m.vInt64, v, []⟩ :
    KeyValue)) m.vFloat64 rfl (by decide) fun _ => rfl)
  refine .append ?_ (.int64 (fun v => (⟨m.key, m.vType, m.vStr, m.vBool, v, .zero, []⟩ : KeyValue))
    m.vInt64 rfl (by decide) fun _ => rfl)
  refine .append ?_ (.bool (fun v => (⟨m.key, m.vType, m.vStr, v, 0, .zero, []⟩ : KeyValue))
    m.vBool rfl (by decide) fun _ => rfl)
  refine .append ?_ (.text (fun v => (⟨m.key, m.vType, v, false, 0, .zero, []⟩ : KeyValue))
    m.vStr rfl (by decide) fun _ => rfl)
  refine .append ?_ (.int32 (fun v => (⟨m.key, v, "", false, 0, .zero, []⟩ : KeyValue))
    m.vType rfl (by decide) fun _ => rfl)
  exact .text (fun v => (⟨v, 0, "", false, 0, .zero, []⟩ : KeyValue)) m.key rfl (by decide)
    fun _ => rfl

theorem fills_stamp (record : String) (depth : Nat) (m : Stamp) :
    Fills (Stamp.step record depth) m.write {} m := by
  refine .append ?_ (.int32 (fun v => (⟨m.seconds, v⟩ : Stamp)) m.nanos rfl (by decide)
    fun _ => rfl)
  exact .int64 (fun v => (⟨v, 0⟩ : Stamp)) m.seconds rfl (by decide) fun _ => rfl

theorem fills_spanRef (depth : Nat) (m : SpanRef) : Fills (SpanRef.step depth) m.write {} m := by
  refine .append ?_ (.int32 (fun v => (⟨m.traceId, m.spanId, v⟩ : SpanRef)) m.refType rfl
    (by decide) fun _ => rfl)
  refine .append ?_ (.bytes (fun v => (⟨m.traceId, v, 0⟩ : SpanRef)) m.spanId rfl (by decide)
    fun _ => rfl)
  exact .bytes (fun v => (⟨v, [], 0⟩ : SpanRef)) m.traceId rfl (by decide) fun _ => rfl

/-! ### Messages with messages in them -/

theorem fills_log (depth : Nat) (m : Log) :
    Fills (Log.step (depth + 1)) m.write {} m.plainZeros := by
  refine .append ?_ (.messages (fun v => (⟨m.timestamp, v⟩ : Log)) m.fields (fills_keyValue depth)
    (by decide) fun _ _ => rfl)
  exact .sameMessage (fun v => (⟨v, []⟩ : Log)) m.timestamp (fills_stamp "Timestamp" depth) rfl
    (by decide) fun _ => rfl

theorem fills_processInfo (depth : Nat) (m : ProcessInfo) :
    Fills (ProcessInfo.step (depth + 1)) m.write {} m.plainZeros := by
  refine .append ?_ (.messages (fun v => (⟨m.serviceName, v⟩ : ProcessInfo)) m.tags
    (fills_keyValue depth) (by decide) fun _ _ => rfl)
  exact .text (fun v => (⟨v, []⟩ : ProcessInfo)) m.serviceName rfl (by decide) fun _ => rfl

theorem fills_span (depth : Nat) (m : Span) :
    Fills (Span.step (depth + 2)) m.write {} m.plainZeros := by
  obtain ⟨traceId, spanId, name, references, flags, startTime, duration, tags, logs, process,
    processId, warnings⟩ := m
  have hkeyValue := fills_keyValue (depth + 1)
  have hstamp := fun record => fills_stamp record (depth + 1)
  refine .append ?_ (.texts (fun v => (⟨traceId, spanId, name, references, flags, startTime,
    duration, tags.map KeyValue.plainZeros, logs.map Log.plainZeros,
    process.map ProcessInfo.plainZeros, processId, v⟩ : Span)) warnings (by decide) fun _ _ => rfl)
  refine .append ?_ (.text (fun v => (⟨traceId, spanId, name, references, flags, startTime,
    duration, tags.map KeyValue.plainZeros, logs.map Log.plainZeros,
    process.map ProcessInfo.plainZeros, v, []⟩ : Span)) processId rfl (by decide) fun _ => rfl)
  refine .append ?_ (.message (fun v => (⟨traceId, spanId, name, references, flags, startTime,
    duration, tags.map KeyValue.plainZeros, logs.map Log.plainZeros, v, "", []⟩ : Span)) process
    (fills_processInfo depth) rfl (by decide) fun _ => rfl)
  refine .append ?_ (.messages (fun v => (⟨traceId, spanId, name, references, flags, startTime,
    duration, tags.map KeyValue.plainZeros, v, none, "", []⟩ : Span)) logs (fills_log depth)
    (by decide) fun _ _ => rfl)
  refine .append ?_ (.messages (fun v => (⟨traceId, spanId, name, references, flags, startTime,
    duration, v, [], none, "", []⟩ : Span)) tags hkeyValue (by decide) fun _ _ => rfl)
  refine .append ?_ (.sameMessage (fun v => (⟨traceId, spanId, name, references, flags, startTime,
    v, [], [], none, "", []⟩ : Span)) duration (hstamp "Duration") rfl (by decide) fun _ => rfl)
  refine .append ?_ (.sameMessage (fun v => (⟨traceId, spanId, name, references, flags, v,
    none, [], [], none, "", []⟩ : Span)) startTime (hstamp "Timestamp") rfl (by decide)
    fun _ => rfl)
  refine .append ?_ (.uint32 (fun v => (⟨traceId, spanId, name, references, v, none, none, [], [],
    none, "", []⟩ : Span)) flags rfl (by decide) fun _ => rfl)
  refine .append ?_ (.sameMessages (fun v => (⟨traceId, spanId, name, v, 0, none, none, [], [],
    none, "", []⟩ : Span)) references (fills_spanRef (depth + 1)) (by decide) fun _ _ => rfl)
  refine .append ?_ (.text (fun v => (⟨traceId, spanId, v, [], 0, none, none, [], [], none, "",
    []⟩ : Span)) name rfl (by decide) fun _ => rfl)
  refine .append ?_ (.bytes (fun v => (⟨traceId, v, "", [], 0, none, none, [], [], none, "", []⟩ :
    Span)) spanId rfl (by decide) fun _ => rfl)
  exact .bytes (fun v => (⟨v, [], "", [], 0, none, none, [], [], none, "", []⟩ : Span)) traceId
    rfl (by decide) fun _ => rfl

theorem fills_batch (depth : Nat) (m : Batch) :
    Fills (Batch.step (depth + 3)) m.write {} m.plainZeros := by
  refine .append ?_ (.message (fun v => (⟨m.spans.map Span.plainZeros, v⟩ : Batch)) m.process
    (fills_processInfo (depth + 1)) rfl (by decide) fun _ => rfl)
  exact .messages (fun v => (⟨v, none⟩ : Batch)) m.spans (fills_span depth) (by decide)
    fun _ _ => rfl

theorem fills_request (depth : Nat) (m : Request) :
    Fills (Request.step (depth + 4)) m.write {} m.plainZeros :=
  .message (fun v => (⟨v⟩ : Request)) m.batch (fills_batch depth) rfl (by decide) fun _ => rfl

/-! ### Requests -/

/-- **A request is read back from its bytes**, but for the signs of its zeros.  The bytes are no
more than a memory can hold, as their lengths are written in one word. -/
theorem decode_encode_plainZeros {r : Request} (h : (encode r).length < UInt64.size) :
    decode (encode r) = .ok r.plainZeros := by
  -- requests nest four deep, and the reader goes deeper than that
  have hfields : Leads (Request.step maxDepth) (encode r) {} r.plainZeros :=
    fills_request 96 r h
  have hrun := hfields.run_fieldsUpTo [] (encode r).length (Nat.le_refl _)
  rw [List.append_nil] at hrun
  have hdecode : (fields (Request.step maxDepth) {}).run (encode r) = .ok (r.plainZeros, []) := by
    simp only [fields, StateT.run_bind, StateT.run_get, pure_bind]
    exact hrun
  rw [decode, hdecode]
  rfl

/-- A request with empty messages, a number of no known type and a zero with a minus sign. -/
def oddRequest : Request where
  batch := some {
    spans := [{}, {
      traceId := [1, 2]
      references := [{}, { spanId := [255], refType := -7 }]
      flags := 4294967295
      startTime := some {}
      duration := some { seconds := -9223372036854775808, nanos := -1 }
      tags := [{}, { key := "é\u0000", vType := -1, vFloat64 := ⟨0x8000000000000000⟩ },
        { vType := 99, vBool := true, vInt64 := -1, vFloat64 := ⟨0x7FF8000000000001⟩ }]
      logs := [{}, { timestamp := some {}, fields := [{}] }]
      process := some {}
      warnings := ["", "late"] }] }

theorem decode_encode_plainZeros_oddRequest :
    (encode oddRequest).length < UInt64.size ∧
      decode (encode oddRequest) = .ok oddRequest.plainZeros ∧
      oddRequest.plainZeros ≠ oddRequest := by
  have hlength : (encode oddRequest).length < UInt64.size := by decide +kernel
  exact ⟨hlength, decode_encode_plainZeros hlength, by decide +kernel⟩

end Protobuf

end SpanIntake

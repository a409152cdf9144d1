/-
**A sample batch.**

One batch of two spans in both wire formats, with the trace data that comes of it: a search that
found nothing and the request that enclosed it, both failed.

Main definitions

* `Sample.thrift`, `Sample.protobuf` — the batch on either wire;
* `Sample.traceData` — what comes of it.
-/

import SpanIntake.Intake.Outcome
import SpanIntake.Protobuf.Batch
import SpanIntake.Thrift.Batch
import SpanIntake.Trace.Reserved

set_option relaxedAutoImplicit false
set_option autoImplicit false

namespace SpanIntake.Sample

/-! ### What the spans have -/

/-- The name of the service. -/
def service : String := "issaTest"

/-- The trace of both spans. -/
def traceId : TraceId :=
  ⟨[0xF1, 0xF2, 0xF3, 0xF4, 0xF5, 0xF6, 0xF7, 0xF8, 0xF9, 0xFA, 0xFB, 0xFC, 0xFD, 0xFE, 0xFF, 0x80],
    rfl, rfl⟩

/-- The enclosing span. -/
def parentSpanId : SpanId := ⟨[0x1F, 0x1E, 0x1D, 0x1C, 0x1B, 0x1A, 0x19, 0x18], rfl, rfl⟩

/-- The enclosed span. -/
def childSpanId : SpanId := ⟨[0xAF, 0xAE, 0xAD, 0xAC, 0xAB, 0xAA, 0xA9, 0xA8], rfl, rfl⟩

/-- The beginning of the enclosed span, in seconds. -/
def childStart : Nat := 1542158650

/-- The duration of the enclosed span, in seconds. -/
def childSeconds : Nat := 600

/-- The duration of the enclosing span, in seconds. -/
def parentSeconds : Nat := 2

/-- The instant so many seconds after the enclosed span's beginning. -/
def instant (seconds : Nat) (h : seconds < 1000000000) : Instant :=
  { seconds := (childStart + seconds : Nat)
    nanos := 536343000
    ge_min := by simp only [childStart]; omega
    le_max := by simp only [childStart]; omega
    nanos_lt := by decide }

/-! ### On the wire -/

/-- The tags of a failed span. -/
def thriftTags (code : StatusCode) (message : String) : List Thrift.Tag :=
  [.ofText Reserved.statusMessage message, .ofLong Reserved.statusCode (Int64.ofNat code.code),
   .ofBool Reserved.error true]

/-- A span in Thrift. -/
def thriftSpan (spanId : SpanId) (parent : Int64) (name : String) (start seconds : Nat)
    (tags : List Thrift.Tag) : Thrift.Span :=
  { traceIdLow := (TraceId.low traceId).toInt64
    traceIdHigh := (TraceId.high traceId).toInt64
    spanId := (SpanId.toWord spanId).toInt64
    parentSpanId := parent
    operationName := name
    references := none
    flags := 0
    startTime := Int64.ofNat (start * 1000000 + 536343)
    duration := Int64.ofNat (seconds * 1000000)
    tags := some tags
    logs := none }

/-- The batch in Thrift. -/
def thrift : Thrift.Batch :=
  { process := ⟨service,
      some [.ofBool "bool" true, .ofText "string" "yes", .ofLong "int64" 10000000]⟩
    spans :=
      [thriftSpan childSpanId (SpanId.toWord parentSpanId).toInt64 "DBSearch" childStart
        childSeconds (thriftTags .notFound "Stale indices"),
       thriftSpan parentSpanId 0 "ProxyFetch" (childStart + childSeconds) parentSeconds
        (thriftTags .internal "Frontend crash")]
    seqNo := none }

/-- The tags of a failed span. -/
def protobufTags (code : StatusCode) (message : String) : List Protobuf.KeyValue :=
  [.ofText Reserved.statusMessage message, .ofInt64 Reserved.statusCode (Int64.ofNat code.code),
   .ofBool Reserved.error true]

/-- A span in protobuf. -/
def protobufSpan (spanId : SpanId) (name : String) (start seconds : Nat)
    (references : List Protobuf.SpanRef) (tags : List Protobuf.KeyValue) : Protobuf.Span :=
  { traceId := traceId.bytes
    spanId := spanId.bytes
    operationName := name
    references
    startTime := some ⟨Int64.ofNat start, 536343000⟩
    duration := some ⟨Int64.ofNat seconds, 0⟩
    tags }

/-- The batch in protobuf. -/
def protobuf : Protobuf.Batch :=
  { spans :=
      [protobufSpan childSpanId "DBSearch" childStart childSeconds
        [⟨traceId.bytes, parentSpanId.bytes, Protobuf.RefType.childOf.code⟩]
        (protobufTags .notFound "Stale indices"),
       protobufSpan parentSpanId "ProxyFetch" (childStart + childSeconds) parentSeconds []
        (protobufTags .internal "Frontend crash")]
    process := some ⟨service,
      [.ofBool "bool" true, .ofText "string" "yes", .ofInt64 "int64" 10000000]⟩ }

/-! ### As trace data -/

/-- The attributes of the process, which are texts in Thrift and keep their types in protobuf. -/
def processAttributes : SourceFormat → Attributes
  | .jaegerThrift =>
    .ofList [("bool", .text "true"), ("string", .text "yes"), ("int64", .text "10000000")]
  | .jaegerProto =>
    .ofList [("bool", .bool true), ("string", .text "yes"), ("int64", .int 10000000)]

/-- The attributes that remain of a failed span's tags. -/
def errorAttribute : Attributes := .ofList [(Reserved.error, .bool true)]

/-- The trace data of the batch. -/
def traceData (format : SourceFormat) : TraceData :=
  { process := ⟨service, processAttributes format⟩
    spans :=
      [{ traceId, spanId := childSpanId, parent := some parentSpanId, name := "DBSearch"
         kind := .unspecified
         startTime := instant 0 (by decide), endTime := instant 600 (by decide)
         status := ⟨.notFound, "Stale indices"⟩, attributes := errorAttribute
         references := [⟨traceId, parentSpanId, .childOf⟩], events := [] },
       { traceId, spanId := parentSpanId, parent := none, name := "ProxyFetch"
         kind := .unspecified, startTime := instant 600 (by decide)
         endTime := instant 602 (by decide)
         status := ⟨.internal, "Frontend crash"⟩, attributes := errorAttribute
         references := [], events := [] }]
    sourceFormat := format }

end SpanIntake.Sample

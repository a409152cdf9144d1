/-
**OTLP export requests.**

The part of the OpenTelemetry trace protocol that an export fills in: resources with their
attributes, scopes, and spans with events, links and a status.

Main definitions

* `Otlp.Request` and the messages in it;
* `Otlp.Request.write` — its protobuf bytes.  Defaults are left out; the value of an attribute is
  one of several alternatives and is always written.
-/

import SpanIntake.Protobuf.Wire
import SpanIntake.Trace.Attribute

set_option relaxedAutoImplicit false
set_option autoImplicit false

namespace SpanIntake.Otlp

/-- A key with a value. -/
abbrev KeyValue := String × AttributeValue

/-- An event of a span. -/
structure Event where
  /-- When, in nanoseconds since the epoch. -/
  time : UInt64
  /-- Its name. -/
  name : String
  /-- What is known of it. -/
  attributes : List KeyValue
  deriving DecidableEq, Repr

/-- A link to another span. -/
structure Link where
  /-- The trace of the other span. -/
  traceId : Bytes
  /-- The other span. -/
  spanId : Bytes
  deriving DecidableEq, Repr

/-- The status of a span. -/
structure Status where
  /-- What its author says. -/
  message : String
  /-- Zero where it is not set, two for an error. -/
  code : Nat
  deriving DecidableEq, Repr

/-- A span. -/
structure Span where
  /-- The trace id. -/
  traceId : Bytes
  /-- The span id. -/
  spanId : Bytes
  /-- The enclosing span's id, empty for none. -/
  parentSpanId : Bytes
  /-- The name of the operation. -/
  name : String
  /-- The number of its kind. -/
  kind : Nat
  /-- The beginning in nanoseconds since the epoch. -/
  startTime : UInt64
  /-- The end in nanoseconds since the epoch. -/
  endTime : UInt64
  /-- What is known of it. -/
  attributes : List KeyValue
  /-- What happened in it. -/
  events : List Event
  /-- The spans it is linked to. -/
  links : List Link
  /-- How it ended. -/
  status : Status
  deriving DecidableEq, Repr

/-- What recorded spans. -/
structure Scope where
  /-- Its name. -/
  name : String
  /-- Its version. -/
  version : String
  /-- What is known of it. -/
  attributes : List KeyValue
  deriving DecidableEq, Repr

/-- The spans of a scope. -/
structure ScopeSpans where
  /-- The scope. -/
  scope : Scope
  /-- The spans. -/
  spans : List Span
  deriving DecidableEq, Repr

/-- The scopes of a resource. -/
structure ResourceSpans where
  /-- The attributes of the resource. -/
  resource : List KeyValue
  /-- The scopes. -/
  scopes : List ScopeSpans
  deriving DecidableEq, Repr

/-- An export request. -/
structure Request where
  /-- The resources. -/
  resources : List ResourceSpans
  deriving DecidableEq, Repr

/-! ### Bytes -/

open Protobuf (writeBytes writeText writeNat writeFixed64 writeBytesField writeTextField
  writeVarintField writeFixed64Field writeMessages)

/-- The alternatives of a value, each under its own number. -/
def writeValue : AttributeValue → Bytes
  | .text s => writeTextField 1 s
  | .bool b => writeVarintField 2 (if b then 1 else 0)
  | .int n => writeVarintField 3 n.toUInt64.toNat
  | .double d => writeFixed64Field 4 d.bits.toNat
  | .bytes bs => writeBytesField 7 bs

/-- A key with a value. -/
def writeKeyValue (x : KeyValue) : Bytes :=
  writeText 1 x.1 ++ writeBytesField 2 (writeValue x.2)

/-- The bytes of an event. -/
def Event.write (e : Event) : Bytes :=
  writeFixed64 1 e.time.toNat ++ writeText 2 e.name ++ writeMessages 3 writeKeyValue e.attributes

/-- The bytes of a link. -/
def Link.write (l : Link) : Bytes := writeBytes 1 l.traceId ++ writeBytes 2 l.spanId

/-- The bytes of a status. -/
def Status.write (s : Status) : Bytes := writeText 2 s.message ++ writeNat 3 s.code

/-- The bytes of a span. -/
def Span.write (s : Span) : Bytes :=
  writeBytes 1 s.traceId ++ writeBytes 2 s.spanId ++ writeBytes 4 s.parentSpanId
    ++ writeText 5 s.name ++ writeNat 6 s.kind ++ writeFixed64 7 s.startTime.toNat
    ++ writeFixed64 8 s.endTime.toNat ++ writeMessages 9 writeKeyValue s.attributes
    ++ writeMessages 11 Event.write s.events ++ writeMessages 13 Link.write s.links
    ++ writeBytesField 15 s.status.write

/-- The bytes of a scope. -/
def Scope.write (s : Scope) : Bytes :=
  writeText 1 s.name ++ writeText 2 s.version ++ writeMessages 3 writeKeyValue s.attributes

/-- The bytes of a scope with its spans. -/
def ScopeSpans.write (s : ScopeSpans) : Bytes :=
  writeBytesField 1 s.scope.write ++ writeMessages 2 Span.write s.spans

/-- The bytes of a resource with its scopes. -/
def ResourceSpans.write (r : ResourceSpans) : Bytes :=
  writeBytesField 1 (writeMessages 1 writeKeyValue r.resource)
    ++ writeMessages 2 ScopeSpans.write r.scopes

/-- The bytes of a request. -/
def Request.write (r : Request) : Bytes := writeMessages 1 ResourceSpans.write r.resources

end SpanIntake.Otlp

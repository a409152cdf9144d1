/-
**Trace data as JSON.**

A record is an object with its fields in the order of their declaration; attribute values carry no
mark of their type, so a reader takes the first type that fits: truth value, 64-bit integer,
double, text, bytes.  Reading also takes a record as the list of its fields, passes over unknown
fields, and refuses a field that is missing or repeated; of attributes with one key the last counts.

Main definitions

* `AttributeValue.toJson`, `AttributeValue.ofJson?`;
* `TraceData.toJson`, `TraceData.ofJson?`.
-/

import SpanIntake.Json.Number
import SpanIntake.Json.Reader
import SpanIntake.Time.Rfc3339
import SpanIntake.Trace.Span

set_option relaxedAutoImplicit false
set_option autoImplicit false

namespace SpanIntake

/-! ### Shapes -/

namespace Json

/-- The text that a value is. -/
def text? : Json → Option String
  | .text s => s
  | _ => none

/-- The items of a list. -/
def list? : Json → Option (List Json)
  | .list items => some items
  | _ => none

/-- The values of named fields, in the order of the names: of an object, where every name must be a
text and none of those asked for may repeat, or of a list of as many items. -/
def record? (names : List String) : Json → Option (List (Option Json))
  | .object fields =>
    let known := fields.filterMap fun (name, value) => name.map fun name => (name, value)
    if known.length = fields.length ∧ names.all (fun n => (known.filter (·.1 == n)).length ≤ 1) then
      some (names.map fun n => (known.find? (·.1 == n)).map (·.2))
    else none
  | .list items => if items.length = names.length then some (items.map some) else none
  | _ => none

/-- The name of a plain choice: a text, or an object whose one field has that name and is null. -/
def choice? : Json → Option String
  | .text s => s
  | .object [(name, .null)] => name
  | _ => none

end Json

/-! ### Leaves -/

/-- An identifier as its hexadecimal text. -/
def Id.toJson {k : IdKind} (i : Id k) : Json := .ofText i.toHex

/-- The identifier that a value spells. -/
def Id.ofJson? (k : IdKind) (j : Json) : Option (Id k) := do
  match Id.parse k (← j.text?) with
  | .ok i => some i
  | .error _ => none

/-- An instant as text. -/
def Instant.toJson (t : Instant) : Json := .ofText (Rfc3339.write .needed .letter t)

/-- The instant that a value names. -/
def Instant.ofJson? (j : Json) : Option Instant := j.text?.bind Rfc3339.read?

namespace AttributeValue

/-- An attribute value; bytes are a list of numbers. -/
def toJson : AttributeValue → Json
  | .bool b => .bool b
  | .int n => .ofInt n.toInt
  | .double d => .ofDouble d
  | .text s => .ofText s
  | .bytes bs => .list (bs.map fun b => .ofInt b.toNat)

/-- The byte that a value is. -/
def byteOfJson? : Json → Option UInt8
  | .number n =>
    match n.value? with
    | some (.int n) => if 0 ≤ n ∧ n < 256 then some (UInt8.ofNat n.toNat) else none
    | _ => none
  | _ => none

/-- The first type that fits a value: an integer beyond 64 bits with sign is a double. -/
def ofJson? : Json → Option AttributeValue
  | .bool b => some (.bool b)
  | .number n =>
    match n.value? with
    | some (.int n) =>
      if fitsInt64 n then some (.int (Int64.ofInt n)) else some (.double (.ofInt n))
    | some (.double d) => some (.double d)
    | none => none
  | .text (some s) => some (.text s)
  | .list items => (items.mapM byteOfJson?).map .bytes
  | _ => none

end AttributeValue

namespace Attributes

/-- Attributes as an object. -/
def toJson (a : Attributes) : Json := .ofFields (a.entries.map fun x => (x.1, x.2.toJson))

/-- The attributes that an object lists. -/
def ofJson? : Json → Option Attributes
  | .object fields =>
    (fields.mapM fun (field : Option String × Json) => do
      pure (← field.1, ← AttributeValue.ofJson? field.2)).map ofList
  | _ => none

end Attributes

/-! ### Choices -/

/-- The name of a kind. -/
def SpanKind.jsonName (k : SpanKind) : String := k.name?.getD "unspecified"

/-- The kind with a name. -/
def SpanKind.ofJson? (j : Json) : Option SpanKind := do
  let name ← j.choice?
  if name = "unspecified" then some .unspecified else SpanKind.ofName? name

/-- The name of a kind of reference. -/
def ReferenceKind.name : ReferenceKind → String
  | .childOf => "child_of"
  | .followsFrom => "follows_from"
  | .unspecified => "unspecified"

/-- The kind of reference with a name. -/
def ReferenceKind.ofName? (s : String) : Option ReferenceKind :=
  if s = "child_of" then some .childOf
  else if s = "follows_from" then some .followsFrom
  else if s = "unspecified" then some .unspecified
  else none

/-! ### Records -/

/-- A status. -/
def Status.toJson (s : Status) : Json :=
  .ofFields [("code", .ofText s.code.name), ("message", .ofText s.message)]

/-- The status that a record says. -/
def Status.ofJson? (j : Json) : Option Status := do
  match ← j.record? ["code", "message"] with
  | [some code, some message] =>
    pure ⟨← StatusCode.ofExactName? (← code.choice?), ← message.text?⟩
  | _ => none

/-- A reference. -/
def SpanReference.toJson (r : SpanReference) : Json :=
  .ofFields [("trace_id", r.traceId.toJson), ("span_id", r.spanId.toJson),
    ("kind", .ofText r.kind.name)]

/-- The reference that a record says. -/
def SpanReference.ofJson? (j : Json) : Option SpanReference := do
  match ← j.record? ["trace_id", "span_id", "kind"] with
  | [some traceId, some spanId, some kind] =>
    pure ⟨← Id.ofJson? .trace traceId, ← Id.ofJson? .span spanId,
      ← ReferenceKind.ofName? (← kind.choice?)⟩
  | _ => none

/-- An event. -/
def TimeEvent.toJson (e : TimeEvent) : Json :=
  .ofFields [("time", e.time.toJson), ("attributes", e.attributes.toJson)]

/-- The event that a record says. -/
def TimeEvent.ofJson? (j : Json) : Option TimeEvent := do
  match ← j.record? ["time", "attributes"] with
  | [some time, some attributes] =>
    pure ⟨← Instant.ofJson? time, ← Attributes.ofJson? attributes⟩
  | _ => none

/-- The parent of a span, `null` where there is none. -/
def Span.parentToJson : Option SpanId → Json
  | some p => p.toJson
  | none => .null

/-- The parent that a field says; a missing field says that there is none. -/
def Span.parentOfJson? : Option Json → Option (Option SpanId)
  | none | some .null => some none
  | some j => (Id.ofJson? .span j).map some

namespace Span

/-- The names of the fields of a span. -/
def fieldNames : List String :=
  ["trace_id", "span_id", "parent_span_id", "name", "kind", "start_time", "end_time", "status",
   "attributes", "references", "events"]

/-- A span. -/
def toJson (s : Span) : Json :=
  .ofFields
    [("trace_id", s.traceId.toJson), ("span_id", s.spanId.toJson),
     ("parent_span_id", parentToJson s.parent), ("name", .ofText s.name),
     ("kind", .ofText s.kind.jsonName), ("start_time", s.startTime.toJson),
     ("end_time", s.endTime.toJson), ("status", s.status.toJson),
     ("attributes", s.attributes.toJson),
     ("references", .list (s.references.map SpanReference.toJson)),
     ("events", .list (s.events.map TimeEvent.toJson))]

/-- The span that a record says. -/
def ofJson? (j : Json) : Option Span := do
  match ← j.record? fieldNames with
  | [some traceId, some spanId, parent, some name, some kind, some startTime, some endTime,
      some status, some attributes, some references, some events] =>
    pure
      { traceId := ← Id.ofJson? .trace traceId
        spanId := ← Id.ofJson? .span spanId
        parent := ← parentOfJson? parent
        name := ← name.text?
        kind := ← SpanKind.ofJson? kind
        startTime := ← Instant.ofJson? startTime
        endTime := ← Instant.ofJson? endTime
        status := ← Status.ofJson? status
        attributes := ← Attributes.ofJson? attributes
        references := ← (← references.list?).mapM SpanReference.ofJson?
        events := ← (← events.list?).mapM TimeEvent.ofJson? }
  | _ => none

end Span

/-- A process. -/
def ProcessInfo.toJson (p : ProcessInfo) : Json :=
  .ofFields [("service_name", .ofText p.serviceName), ("attributes", p.attributes.toJson)]

/-- The process that a record says. -/
def ProcessInfo.ofJson? (j : Json) : Option ProcessInfo := do
  match ← j.record? ["service_name", "attributes"] with
  | [some serviceName, some attributes] =>
    pure ⟨← serviceName.text?, ← Attributes.ofJson? attributes⟩
  | _ => none

/-- Trace data. -/
def TraceData.toJson (d : TraceData) : Json :=
  .ofFields
    [("process", d.process.toJson), ("spans", .list (d.spans.map Span.toJson)),
     ("source_format", .ofText d.sourceFormat.name)]

/-- The trace data that a record says. -/
def TraceData.ofJson? (j : Json) : Option TraceData := do
  match ← j.record? ["process", "spans", "source_format"] with
  | [some process, some spans, some sourceFormat] =>
    pure ⟨← ProcessInfo.ofJson? process, ← (← spans.list?).mapM Span.ofJson?,
      ← SourceFormat.ofName? (← sourceFormat.choice?)⟩
  | _ => none

/-- The trace data that a text says. -/
def TraceData.read? (s : String) : Option TraceData := (Json.read? s).bind TraceData.ofJson?

end SpanIntake

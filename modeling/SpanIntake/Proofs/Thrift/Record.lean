/-
**The records of a batch as values.**

A batch is a record of records: a process with its tags, spans with their references, tags and
logs, logs with their tags.  This module says which value each of them is written as, field by field.

Main definitions:

* `Thrift.tagFields`, `Thrift.logFields`, `Thrift.spanRefFields`, `Thrift.spanFields`,
  `Thrift.processFields`, `Thrift.batchFields` — the fields of each record;
* `Thrift.Tag.Encodable` and its like — every list, text and byte string has a length that fits its
  size field.

Main results:

* `Thrift.bytes_batchFields` and its like — a record is written as the value of its fields.
-/

import SpanIntake.Proofs.Thrift.Reading

set_option relaxedAutoImplicit false
set_option autoImplicit false

namespace SpanIntake.Thrift

/-! ### Fields -/

/-- A text as a value. -/
def textValue (s : String) : Value := .string (Utf8.encode s)

/-- A list of records as a value. -/
def recordsValue {α : Type} (fields : α → List Field) (xs : List α) : Value :=
  .list .struct (xs.map fun x => .struct (fields x))

/-- A field that may be absent. -/
def optionalField {α : Type} (id : Int16) (value : α → Value) (x : Option α) : List Field :=
  x.toList.map fun a => (id, value a)

/-- The fields of a tag. -/
def tagFields (t : Tag) : List Field :=
  [(1, textValue t.key), (2, .i32 t.vType)]
    ++ optionalField 3 textValue t.vStr
    ++ optionalField 4 .double t.vDouble
    ++ optionalField 5 .bool t.vBool
    ++ optionalField 6 .i64 t.vLong
    ++ optionalField 7 .string t.vBinary

/-- The fields of a log. -/
def logFields (l : Log) : List Field :=
  [(1, .i64 l.timestamp), (2, recordsValue tagFields l.fields)]

/-- The fields of a reference. -/
def spanRefFields (r : SpanRef) : List Field :=
  [(1, .i32 r.refType), (2, .i64 r.traceIdLow), (3, .i64 r.traceIdHigh), (4, .i64 r.spanId)]

/-- The fields of a span. -/
def spanFields (s : Span) : List Field :=
  [(1, .i64 s.traceIdLow), (2, .i64 s.traceIdHigh), (3, .i64 s.spanId), (4, .i64 s.parentSpanId),
   (5, textValue s.operationName)]
    ++ optionalField 6 (recordsValue spanRefFields) s.references
    ++ [(7, .i32 s.flags), (8, .i64 s.startTime), (9, .i64 s.duration)]
    ++ optionalField 10 (recordsValue tagFields) s.tags
    ++ optionalField 11 (recordsValue logFields) s.logs

/-- The fields of a process. -/
def processFields (p : ProcessInfo) : List Field :=
  [(1, textValue p.serviceName)] ++ optionalField 2 (recordsValue tagFields) p.tags

/-- The fields of a batch. -/
def batchFields (b : Batch) : List Field :=
  [(1, .struct (processFields b.process)), (2, recordsValue spanFields b.spans)]
    ++ optionalField 3 .i64 b.seqNo

/-! ### Lengths that fit -/

/-- A text whose length fits its size field. -/
def FitsText (s : String) : Prop := (Utf8.encode s).length < listLimit

instance (s : String) : Decidable (FitsText s) := Nat.decLt _ _

/-- A list whose length fits its size field and whose items are in order. -/
def FitsList {α : Type} (P : α → Prop) (xs : List α) : Prop :=
  xs.length < listLimit ∧ ∀ x ∈ xs, P x

/-- Every text and byte string of a tag has a length that fits. -/
structure Tag.Encodable (t : Tag) : Prop where
  key : FitsText t.key
  vStr : ∀ s, t.vStr = some s → FitsText s
  vBinary : ∀ bs, t.vBinary = some bs → bs.length < listLimit

/-- Every length in a log fits. -/
structure Log.Encodable (l : Log) : Prop where
  fields : FitsList Tag.Encodable l.fields

/-- Every length in a span fits. -/
structure Span.Encodable (s : Span) : Prop where
  operationName : FitsText s.operationName
  references : ∀ rs, s.references = some rs → rs.length < listLimit
  tags : ∀ ts, s.tags = some ts → FitsList Tag.Encodable ts
  logs : ∀ ls, s.logs = some ls → FitsList Log.Encodable ls

/-- Every length in a process fits. -/
structure ProcessInfo.Encodable (p : ProcessInfo) : Prop where
  serviceName : FitsText p.serviceName
  tags : ∀ ts, p.tags = some ts → FitsList Tag.Encodable ts

/-- Every list, text and byte string of a batch has a length that fits its size field. -/
structure Batch.Encodable (b : Batch) : Prop where
  process : b.process.Encodable
  spans : FitsList Span.Encodable b.spans

/-! ### Bytes of records -/

theorem fieldsBytes_optionalField {α : Type} {id : Int16} {value : α → Value} {x : Option α}
    (type : WireType) (write : α → Bytes) (htype : ∀ a, (value a).type = type)
    (hwrite : ∀ a, (value a).bytes = write a) :
    fieldsBytes (optionalField id value x) = writeOptional type id.toUInt16.toNat write x := by
  cases x with
  | none => rfl
  | some a =>
      show writeHead (value a).type _ ++ (value a).bytes ++ [] = writeHead type _ ++ write a
      rw [List.append_nil, htype, hwrite]

theorem bytes_recordsValue {α : Type} {fields : α → List Field} {write : α → Bytes}
    (h : ∀ x, (Value.struct (fields x)).bytes = write x) (xs : List α) :
    (recordsValue fields xs).bytes = writeList write xs := by
  have hitems : itemsBytes (xs.map fun x => .struct (fields x)) = xs.flatMap write := by
    rw [itemsBytes_eq, List.flatMap_map]
    simp only [h]
  rw [recordsValue, Value.bytes, List.length_map, hitems]
  rfl

theorem bytes_tagFields (t : Tag) : (Value.struct (tagFields t)).bytes = writeTag t := by
  simp only [Value.bytes, tagFields, fieldsBytes_append]
  rw [fieldsBytes_optionalField .string writeText (fun _ => rfl) (fun _ => rfl),
    fieldsBytes_optionalField .double writeDouble (fun _ => rfl) (fun _ => rfl),
    fieldsBytes_optionalField .bool writeBool (fun _ => rfl) (fun _ => rfl),
    fieldsBytes_optionalField .i64 writeInt64 (fun _ => rfl) (fun _ => rfl),
    fieldsBytes_optionalField .string writeBytes (fun _ => rfl) (fun _ => rfl)]
  simp only [writeTag, fieldsBytes, List.append_assoc, List.append_nil]
  rfl

theorem bytes_logFields (l : Log) : (Value.struct (logFields l)).bytes = writeLog l := by
  simp only [Value.bytes, logFields, fieldsBytes, bytes_recordsValue bytes_tagFields]
  simp only [writeLog, List.append_assoc, List.append_nil]
  rfl

theorem bytes_spanRefFields (r : SpanRef) :
    (Value.struct (spanRefFields r)).bytes = writeSpanRef r := by
  simp only [Value.bytes, spanRefFields, fieldsBytes]
  simp only [writeSpanRef, List.append_assoc, List.append_nil]
  rfl

theorem bytes_spanFields (s : Span) : (Value.struct (spanFields s)).bytes = writeSpan s := by
  simp only [Value.bytes, spanFields, fieldsBytes_append]
  rw [fieldsBytes_optionalField .list (writeList writeSpanRef) (fun _ => rfl)
      (bytes_recordsValue bytes_spanRefFields),
    fieldsBytes_optionalField .list (writeList writeTag) (fun _ => rfl)
      (bytes_recordsValue bytes_tagFields),
    fieldsBytes_optionalField .list (writeList writeLog) (fun _ => rfl)
      (bytes_recordsValue bytes_logFields)]
  simp only [writeSpan, fieldsBytes, List.append_assoc, List.append_nil]
  rfl

theorem bytes_processFields (p : ProcessInfo) :
    (Value.struct (processFields p)).bytes = writeProcess p := by
  simp only [Value.bytes, processFields, fieldsBytes_append]
  rw [fieldsBytes_optionalField .list (writeList writeTag) (fun _ => rfl)
      (bytes_recordsValue bytes_tagFields)]
  simp only [writeProcess, fieldsBytes, List.append_assoc, List.append_nil]
  rfl

/-- **A batch is written as the value of its fields.** -/
theorem bytes_batchFields (b : Batch) : (Value.struct (batchFields b)).bytes = writeBatch b := by
  simp only [Value.bytes, batchFields, fieldsBytes_append]
  rw [fieldsBytes_optionalField .i64 writeInt64 (fun _ => rfl) (fun _ => rfl)]
  simp only [fieldsBytes, bytes_processFields, bytes_recordsValue bytes_spanFields]
  simp only [writeBatch, List.append_assoc, List.append_nil]
  rfl

end SpanIntake.Thrift

/-
**What is written is read back.**

Every record is written field by field and read by a field loop of its own into a draft.  For each
kind the fields, read from the empty draft on, fill the draft with the record: one lemma a kind,
from tags outwards.  Two of them meet in the end: encoding succeeds where all lengths fit their
size fields, and what follows the bytes of a batch is left alone.

Main results:

* `Thrift.gives_readTag`, `Thrift.gives_readLog`, `Thrift.gives_readSpanRef`,
  `Thrift.gives_readSpan`, `Thrift.gives_readProcess`, `Thrift.gives_readBatch` — each record is
  read back;
* `Thrift.encode_eq_ok` — encoding succeeds where all lengths fit;
* `Thrift.decode_encode_append` — **a batch is read back from its bytes, whatever follows them**.
-/

import SpanIntake.Proofs.Thrift.Record

set_option relaxedAutoImplicit false
set_option autoImplicit false

namespace SpanIntake.Thrift

variable {α σ : Type}

/-! ### Fields that may be absent, and records in drafts -/

/-- A field that may be absent fills a part of the state that was empty so far. -/
theorem FieldsGive.append_optional {step : σ → Int → WireType → Reader σ} {fs : List Field}
    {s : σ} {id : Int16} {value : α → Value} {x : Option α} (put : Option α → σ)
    (h : FieldsGive step fs s (.ok (put none)))
    (hx : ∀ a, x = some a →
      Gives (step (put none) id.toInt (value a).type) (value a).bytes (.ok (put (some a)))) :
    FieldsGive step (fs ++ optionalField id value x) s (.ok (put x)) := by
  refine h.append ?_
  cases x with
  | none => exact .nil _
  | some a => exact .single (hx a rfl)

/-- A record is read by its field loop and then taken out of the draft. -/
theorem FieldsGive.gives_record {step : σ → Int → WireType → Reader σ} {fs : List Field}
    {s t : σ} {finish : σ → Reader α} {x : α} (h : FieldsGive step fs s (.ok t))
    (hfinish : Gives (finish t) [] (.ok x)) :
    Gives (fields step s >>= finish) (Value.struct fs).bytes (.ok x) :=
  Gives.bind_nil h.gives hfinish

/-! ### Tags -/

/-- The fields of a tag fill the draft. -/
theorem fieldsGive_tag {t : Tag} (ht : t.Encodable) :
    FieldsGive TagDraft.step (tagFields t) {}
      (.ok ⟨some t.key, some t.vType, t.vStr, t.vDouble, t.vBool, t.vLong, t.vBinary⟩) := by
  rw [tagFields]
  -- the fields are taken off from the last one, which may be absent like the four before it
  refine .append_optional (fun v => (⟨some t.key, some t.vType, t.vStr, t.vDouble, t.vBool,
    t.vLong, v⟩ : TagDraft)) ?_ fun bs hbs => (gives_bytes (ht.vBinary bs hbs)).map _
  refine .append_optional (fun v => (⟨some t.key, some t.vType, t.vStr, t.vDouble, t.vBool, v,
    none⟩ : TagDraft)) ?_ fun n _ => (gives_int64 n).map _
  refine .append_optional (fun v => (⟨some t.key, some t.vType, t.vStr, t.vDouble, v, none,
    none⟩ : TagDraft)) ?_ fun b _ => (gives_bool b).map _
  refine .append_optional (fun v => (⟨some t.key, some t.vType, t.vStr, v, none, none,
    none⟩ : TagDraft)) ?_ fun d _ => (gives_double d).map _
  refine .append_optional (fun v => (⟨some t.key, some t.vType, v, none, none, none,
    none⟩ : TagDraft)) ?_ fun s hs => (gives_text (ht.vStr s hs)).map _
  exact .cons ((gives_text ht.key).map _) (.single ((gives_int32 t.vType).map _))

theorem gives_readTag {t : Tag} (ht : t.Encodable) :
    Gives readTag (Value.struct (tagFields t)).bytes (.ok t) :=
  (fieldsGive_tag ht).gives_record fun _ => rfl

theorem gives_readTags {ts : List Tag} (hts : FitsList Tag.Encodable ts) :
    Gives (listOf readTag) (recordsValue tagFields ts).bytes (.ok ts) :=
  gives_listOf hts.1 (fun t ht => gives_readTag (hts.2 t ht)) .struct

/-! ### Logs -/

/-- The fields of a log fill the draft. -/
theorem fieldsGive_log {l : Log} (hl : l.Encodable) :
    FieldsGive LogDraft.step (logFields l) {} (.ok ⟨some l.timestamp, some l.fields⟩) :=
  .cons ((gives_int64 l.timestamp).map _) (.single ((gives_readTags hl.fields).map _))

theorem gives_readLog {l : Log} (hl : l.Encodable) :
    Gives readLog (Value.struct (logFields l)).bytes (.ok l) :=
  (fieldsGive_log hl).gives_record fun _ => rfl

theorem gives_readLogs {ls : List Log} (hls : FitsList Log.Encodable ls) :
    Gives (listOf readLog) (recordsValue logFields ls).bytes (.ok ls) :=
  gives_listOf hls.1 (fun l hl => gives_readLog (hls.2 l hl)) .struct

/-! ### References -/

/-- The fields of a reference fill the draft. -/
theorem fieldsGive_spanRef (r : SpanRef) :
    FieldsGive SpanRefDraft.step (spanRefFields r) {}
      (.ok ⟨some r.refType, some r.traceIdLow, some r.traceIdHigh, some r.spanId⟩) := by
  refine .cons ((gives_int32 r.refType).map _) ?_
  refine .cons ((gives_int64 r.traceIdLow).map _) ?_
  refine .cons ((gives_int64 r.traceIdHigh).map _) ?_
  exact .single ((gives_int64 r.spanId).map _)

theorem gives_readSpanRef (r : SpanRef) :
    Gives readSpanRef (Value.struct (spanRefFields r)).bytes (.ok r) :=
  (fieldsGive_spanRef r).gives_record fun _ => rfl

theorem gives_readSpanRefs {rs : List SpanRef} (hrs : rs.length < listLimit) :
    Gives (listOf readSpanRef) (recordsValue spanRefFields rs).bytes (.ok rs) :=
  gives_listOf hrs (fun r _ => gives_readSpanRef r) .struct

/-! ### Spans -/

/-- The fields of a span fill the draft. -/
theorem fieldsGive_span {s : Span} (hs : s.Encodable) :
    FieldsGive SpanDraft.step (spanFields s) {}
      (.ok ⟨some s.traceIdLow, some s.traceIdHigh, some s.spanId, some s.parentSpanId,
        some s.operationName, s.references, some s.flags, some s.startTime, some s.duration,
        s.tags, s.logs⟩) := by
  -- the three fields between the references and the tags are always there
  have hmiddle (d : SpanDraft) : FieldsGive SpanDraft.step
      [(7, .i32 s.flags), (8, .i64 s.startTime), (9, .i64 s.duration)] d
      (.ok { d with
        flags := some s.flags, startTime := some s.startTime, duration := some s.duration }) := by
    refine .cons ((gives_int32 s.flags).map _) ?_
    refine .cons ((gives_int64 s.startTime).map _) ?_
    exact .single ((gives_int64 s.duration).map _)
  rw [spanFields]
  refine .append_optional (fun v => (⟨some s.traceIdLow, some s.traceIdHigh, some s.spanId,
    some s.parentSpanId, some s.operationName, s.references, some s.flags, some s.startTime,
    some s.duration, s.tags, v⟩ : SpanDraft)) ?_ fun ls hls => (gives_readLogs (hs.logs ls hls)).map _
  refine .append_optional (fun v => (⟨some s.traceIdLow, some s.traceIdHigh, some s.spanId,
    some s.parentSpanId, some s.operationName, s.references, some s.flags, some s.startTime,
    some s.duration, v, none⟩ : SpanDraft)) ?_ fun ts hts => (gives_readTags (hs.tags ts hts)).map _
  refine .append ?_ (hmiddle ⟨some s.traceIdLow, some s.traceIdHigh, some s.spanId,
    some s.parentSpanId, some s.operationName, s.references, none, none, none, none, none⟩)
  refine .append_optional (fun v => (⟨some s.traceIdLow, some s.traceIdHigh, some s.spanId,
    some s.parentSpanId, some s.operationName, v, none, none, none, none, none⟩ : SpanDraft)) ?_
    fun rs hrs => (gives_readSpanRefs (hs.references rs hrs)).map _
  refine .cons ((gives_int64 s.traceIdLow).map _) ?_
  refine .cons ((gives_int64 s.traceIdHigh).map _) ?_
  refine .cons ((gives_int64 s.spanId).map _) ?_
  refine .cons ((gives_int64 s.parentSpanId).map _) ?_
  exact .single ((gives_text hs.operationName).map _)

theorem gives_readSpan {s : Span} (hs : s.Encodable) :
    Gives readSpan (Value.struct (spanFields s)).bytes (.ok s) :=
  (fieldsGive_span hs).gives_record fun _ => rfl

theorem gives_readSpans {ss : List Span} (hss : FitsList Span.Encodable ss) :
    Gives (listOf readSpan) (recordsValue spanFields ss).bytes (.ok ss) :=
  gives_listOf hss.1 (fun s hs => gives_readSpan (hss.2 s hs)) .struct

/-! ### Processes -/

/-- The fields of a process fill the draft. -/
theorem fieldsGive_process {p : ProcessInfo} (hp : p.Encodable) :
    FieldsGive ProcessDraft.step (processFields p) {} (.ok ⟨some p.serviceName, p.tags⟩) := by
  rw [processFields]
  refine .append_optional (fun v => (⟨some p.serviceName, v⟩ : ProcessDraft)) ?_
    fun ts hts => (gives_readTags (hp.tags ts hts)).map _
  exact .single ((gives_text hp.serviceName).map _)

theorem gives_readProcess {p : ProcessInfo} (hp : p.Encodable) :
    Gives readProcess (Value.struct (processFields p)).bytes (.ok p) :=
  (fieldsGive_process hp).gives_record fun _ => rfl

/-! ### Batches -/

/-- The fields of a batch fill the draft. -/
theorem fieldsGive_batch {b : Batch} (hb : b.Encodable) :
    FieldsGive BatchDraft.step (batchFields b) {} (.ok ⟨some b.process, some b.spans, b.seqNo⟩) := by
  rw [batchFields]
  refine .append_optional (fun v => (⟨some b.process, some b.spans, v⟩ : BatchDraft)) ?_
    fun n _ => (gives_int64 n).map _
  exact .cons ((gives_readProcess hb.process).map _) (.single ((gives_readSpans hb.spans).map _))

theorem gives_readBatch {b : Batch} (hb : b.Encodable) :
    Gives readBatch (Value.struct (batchFields b)).bytes (.ok b) :=
  (fieldsGive_batch hb).gives_record fun _ => rfl

/-! ### Encoding -/

theorem Span.lt_of_mem_listLengths {s : Span} (hs : s.Encodable) {n : Nat}
    (hn : n ∈ s.listLengths) : n < listLimit := by
  simp only [Span.listLengths, List.mem_append, List.mem_map, List.mem_flatMap,
    Option.mem_toList, List.mem_cons] at hn
  rcases hn with (⟨rs, hrs, rfl⟩ | ⟨ts, hts, rfl⟩) | ⟨ls, hls, rfl | ⟨l, hl, rfl⟩⟩
  · exact hs.references rs hrs
  · exact (hs.tags ts hts).1
  · exact (hs.logs ls hls).1
  · exact ((hs.logs ls hls).2 l hl).fields.1

theorem Batch.lt_of_mem_listLengths {b : Batch} (hb : b.Encodable) {n : Nat}
    (hn : n ∈ b.listLengths) : n < listLimit := by
  simp only [Batch.listLengths, List.mem_append, List.mem_map, List.mem_flatMap,
    Option.mem_toList, List.mem_cons] at hn
  rcases hn with ⟨ts, hts, rfl⟩ | rfl | ⟨s, hs, hn⟩
  · exact (hb.process.tags ts hts).1
  · exact hb.spans.1
  · exact s.lt_of_mem_listLengths (hb.spans.2 s hs) hn

/-- **Encoding succeeds where all lengths fit.** -/
theorem encode_eq_ok {b : Batch} (hb : b.Encodable) : encode b = .ok (writeBatch b) := by
  have hnone : b.listLengths.find? (listLimit ≤ ·) = none := by
    rw [List.find?_eq_none]
    intro n hn
    have hlt := b.lt_of_mem_listLengths hb hn
    simpa using hlt
  rw [encode, hnone]

/-- **A batch is read back from its bytes, whatever follows them**: encoding succeeds, and reading
takes exactly the bytes of the batch off. -/
theorem decode_encode_append {b : Batch} (hb : b.Encodable) :
    ∃ bs, encode b = .ok bs ∧
      ∀ rest, readBatch.run (bs ++ rest) = .ok (b, rest) ∧ decode (bs ++ rest) = .ok b := by
  refine ⟨writeBatch b, encode_eq_ok hb, fun rest => ?_⟩
  have hrun : readBatch.run (writeBatch b ++ rest) = .ok (b, rest) := by
    rw [← bytes_batchFields]
    exact gives_readBatch hb rest
  refine ⟨hrun, ?_⟩
  rw [decode, hrun]
  rfl

/-- A tag of no known type with a double and a byte string. -/
def mixedTag : Tag :=
  { key := "k", vType := 77, vDouble := some ⟨0x7FF8000000000001⟩, vBinary := some [255] }

/-- A batch with lists that are absent, empty and neither. -/
def mixedBatch : Batch :=
  { process := ⟨"svc", some []⟩
    spans := [
      { traceIdLow := -1, traceIdHigh := 0, spanId := 7, parentSpanId := 0, operationName := "op"
        references := some [⟨9, 1, 2, 3⟩], flags := 1, startTime := 5, duration := 6
        tags := some [mixedTag], logs := none }]
    seqNo := some 3 }

theorem encodable_mixedTag : mixedTag.Encodable where
  key := by decide
  vStr := by simp [mixedTag]
  vBinary := by simp [mixedTag, listLimit]

theorem encodable_mixedBatch : mixedBatch.Encodable where
  process := {
    serviceName := by decide
    tags := by simp [mixedBatch, FitsList, listLimit] }
  spans := by
    refine ⟨by decide, ?_⟩
    intro s hs
    obtain rfl := List.mem_singleton.1 hs
    exact {
      operationName := by decide
      references := by simp [listLimit]
      tags := by simpa [FitsList, listLimit] using encodable_mixedTag
      logs := by simp }

theorem decode_encode_append_mixedBatch : mixedBatch.Encodable ∧
    ∃ bs, encode mixedBatch = .ok bs ∧
      ∀ rest, readBatch.run (bs ++ rest) = .ok (mixedBatch, rest) ∧
        decode (bs ++ rest) = .ok mixedBatch :=
  ⟨encodable_mixedBatch, decode_encode_append encodable_mixedBatch⟩

end SpanIntake.Thrift

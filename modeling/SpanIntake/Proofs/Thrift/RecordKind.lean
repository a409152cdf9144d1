/-
**The six kinds of record under one name.**

The readers of the six records have one shape: a field loop into a draft, which knows some ids with
their types, passes over all other fields, and at the end turns the draft into the record.  Here
the kinds get a type, and each of these parts becomes a function of the kind, so that a law of
records is stated once and an induction over records within records has one case for them all.

Main definitions:

* `Thrift.RecordKind` — batch, process, span, reference, log and tag;
* `Thrift.RecordKind.known` — the ids that mean something, with their types;
* `Thrift.RecordKind.inner` — the fields that hold records, with the kind of these;
* `Thrift.RecordKind.read`, `Thrift.RecordKind.fields` — reader and fields of a kind.

Main results:

* `Thrift.RecordKind.fieldsGive_fields` — the fields of a record fill the draft;
* `Thrift.RecordKind.step_of_not_mem_known` — **every other field is passed over**;
* `Thrift.RecordKind.holds_of_mem_fields` — what a field with records in it holds, and how it is
  read.
-/

import SpanIntake.Proofs.Thrift.RoundTrip

set_option relaxedAutoImplicit false
set_option autoImplicit false

namespace SpanIntake.Thrift

/-- The kinds of record in a batch. -/
inductive RecordKind where
  /-- The spans of one process. -/
  | batch
  /-- The process that reports spans. -/
  | process
  /-- A span. -/
  | span
  /-- A reference to another span. -/
  | spanRef
  /-- Something that happened during a span. -/
  | log
  /-- A key with a value. -/
  | tag
  deriving DecidableEq

namespace RecordKind

/-! ### The parts of a reader -/

/-- The records of a kind. -/
abbrev Record : RecordKind → Type
  | .batch => Batch
  | .process => ProcessInfo
  | .span => Span
  | .spanRef => SpanRef
  | .log => Log
  | .tag => Tag

/-- What a kind's fields are read into. -/
abbrev Draft : RecordKind → Type
  | .batch => BatchDraft
  | .process => ProcessDraft
  | .span => SpanDraft
  | .spanRef => SpanRefDraft
  | .log => LogDraft
  | .tag => TagDraft

/-- The empty draft. -/
def start : (k : RecordKind) → k.Draft
  | .batch => {}
  | .process => {}
  | .span => {}
  | .spanRef => {}
  | .log => {}
  | .tag => {}

/-- Reads one field. -/
def step : (k : RecordKind) → k.Draft → Int → WireType → Reader k.Draft
  | .batch => BatchDraft.step
  | .process => ProcessDraft.step
  | .span => SpanDraft.step
  | .spanRef => SpanRefDraft.step
  | .log => LogDraft.step
  | .tag => TagDraft.step

/-- The record of a draft. -/
def finish : (k : RecordKind) → k.Draft → Reader k.Record
  | .batch => BatchDraft.finish
  | .process => ProcessDraft.finish
  | .span => SpanDraft.finish
  | .spanRef => SpanRefDraft.finish
  | .log => LogDraft.finish
  | .tag => TagDraft.finish

/-- Reads a record. -/
def read : (k : RecordKind) → Reader k.Record
  | .batch => readBatch
  | .process => readProcess
  | .span => readSpan
  | .spanRef => readSpanRef
  | .log => readLog
  | .tag => readTag

theorem read_eq (k : RecordKind) : k.read = fields k.step k.start >>= k.finish := by
  cases k <;> rfl

/-! ### Records and their fields -/

/-- The fields of a record. -/
def fields : (k : RecordKind) → k.Record → List Field
  | .batch => batchFields
  | .process => processFields
  | .span => spanFields
  | .spanRef => spanRefFields
  | .log => logFields
  | .tag => tagFields

/-- Every length in a record fits its size field. -/
def Encodable : (k : RecordKind) → k.Record → Prop
  | .batch => Batch.Encodable
  | .process => ProcessInfo.Encodable
  | .span => Span.Encodable
  | .spanRef => fun _ => True
  | .log => Log.Encodable
  | .tag => Tag.Encodable

/-- The ids that mean something to a kind, with the types of their values. -/
def known : RecordKind → List (Int × WireType)
  | .batch => [(1, .struct), (2, .list), (3, .i64)]
  | .process => [(1, .string), (2, .list)]
  | .span => [(1, .i64), (2, .i64), (3, .i64), (4, .i64), (5, .string), (6, .list), (7, .i32),
      (8, .i64), (9, .i64), (10, .list), (11, .list)]
  | .spanRef => [(1, .i32), (2, .i64), (3, .i64), (4, .i64)]
  | .log => [(1, .i64), (2, .list)]
  | .tag => [(1, .string), (2, .i32), (3, .string), (4, .double), (5, .bool), (6, .i64),
      (7, .string)]

/-- The ids of the fields that hold a record or a list of records, with the kind of these. -/
def inner : RecordKind → List (Int16 × RecordKind)
  | .batch => [(1, .process), (2, .span)]
  | .process => [(2, .tag)]
  | .span => [(6, .spanRef), (10, .tag), (11, .log)]
  | .log => [(2, .tag)]
  | .spanRef | .tag => []

/-- The fields of a record fill a draft, from which the record is taken. -/
theorem fieldsGive_fields (k : RecordKind) {x : k.Record} (hx : k.Encodable x) :
    ∃ d, FieldsGive k.step (k.fields x) k.start (.ok d) ∧ Gives (k.finish d) [] (.ok x) := by
  cases k with
  | batch => exact ⟨_, fieldsGive_batch hx, fun _ => rfl⟩
  | process => exact ⟨_, fieldsGive_process hx, fun _ => rfl⟩
  | span => exact ⟨_, fieldsGive_span hx, fun _ => rfl⟩
  | spanRef => exact ⟨_, fieldsGive_spanRef x, fun _ => rfl⟩
  | log => exact ⟨_, fieldsGive_log hx, fun _ => rfl⟩
  | tag => exact ⟨_, fieldsGive_tag hx, fun _ => rfl⟩

/-- **Every field that means nothing to a kind is passed over.** -/
theorem step_of_not_mem_known (k : RecordKind) (d : k.Draft) {id : Int} {type : WireType}
    (h : (id, type) ∉ k.known) :
    k.step d id type = (skip maxDepth type >>= fun _ => pure d) := by
  cases k with
  | batch =>
      simp only [step, BatchDraft.step]
      split <;> first | rfl | exact absurd (by decide) h
  | process =>
      simp only [step, ProcessDraft.step]
      split <;> first | rfl | exact absurd (by decide) h
  | span =>
      simp only [step, SpanDraft.step]
      split <;> first | rfl | exact absurd (by decide) h
  | spanRef =>
      simp only [step, SpanRefDraft.step]
      split <;> first | rfl | exact absurd (by decide) h
  | log =>
      simp only [step, LogDraft.step]
      split <;> first | rfl | exact absurd (by decide) h
  | tag =>
      simp only [step, TagDraft.step]
      split <;> first | rfl | exact absurd (by decide) h

/-! ### Records within records -/

/-- A field of a record of kind `k` holds a record of kind `k'` or a list of them, and is read by
the reader of `k'`. -/
inductive Holds (k k' : RecordKind) (id : Int16) : Value → Prop
  | record {y : k'.Record} (encodable : k'.Encodable y) (put : k.Draft → k'.Record → k.Draft)
      (step_eq : ∀ d, k.step d id.toInt .struct = k'.read >>= fun y => pure (put d y)) :
      Holds k k' id (.struct (k'.fields y))
  | records {ys : List k'.Record} (encodable : FitsList k'.Encodable ys)
      (put : k.Draft → List k'.Record → k.Draft)
      (step_eq : ∀ d, k.step d id.toInt .list = listOf k'.read >>= fun ys => pure (put d ys)) :
      Holds k k' id (recordsValue k'.fields ys)

theorem mem_optionalField {α : Type} {id id' : Int16} {value : α → Value} {x : Option α}
    {v : Value} : (id, v) ∈ optionalField id' value x ↔ ∃ a, x = some a ∧ id = id' ∧ v = value a := by
  cases x with
  | none => simp [optionalField]
  | some a => simp [optionalField]

theorem holds_of_mem_fields {k k' : RecordKind} {x : k.Record} (hx : k.Encodable x) {id : Int16}
    {v : Value} (hk : (id, k') ∈ k.inner) (hv : (id, v) ∈ k.fields x) : Holds k k' id v := by
  cases k with
  | batch =>
      obtain ⟨rfl, rfl⟩ | ⟨rfl, rfl⟩ : id = 1 ∧ k' = .process ∨ id = 2 ∧ k' = .span := by
        simpa [inner] using hk
      · obtain rfl : v = .struct (processFields x.process) := by
          simpa [fields, batchFields, mem_optionalField] using hv
        exact .record hx.process (fun d y => { d with process := some y }) fun _ => rfl
      · obtain rfl : v = recordsValue spanFields x.spans := by
          simpa [fields, batchFields, mem_optionalField] using hv
        exact .records hx.spans (fun d ys => { d with spans := some ys }) fun _ => rfl
  | process =>
      obtain ⟨rfl, rfl⟩ : id = 2 ∧ k' = .tag := by simpa [inner] using hk
      obtain ⟨ts, hts, rfl⟩ : ∃ ts, x.tags = some ts ∧ v = recordsValue tagFields ts := by
        simpa [fields, processFields, mem_optionalField] using hv
      exact .records (hx.tags ts hts) (fun d ys => { d with tags := some ys }) fun _ => rfl
  | span =>
      obtain ⟨rfl, rfl⟩ | ⟨rfl, rfl⟩ | ⟨rfl, rfl⟩ :
          id = 6 ∧ k' = .spanRef ∨ id = 10 ∧ k' = .tag ∨ id = 11 ∧ k' = .log := by
        simpa [inner] using hk
      · obtain ⟨rs, hrs, rfl⟩ : ∃ rs, x.references = some rs ∧ v = recordsValue spanRefFields rs := by
          simpa [fields, spanFields, mem_optionalField] using hv
        exact .records ⟨hx.references rs hrs, fun _ _ => trivial⟩
          (fun d ys => { d with references := some ys }) fun _ => rfl
      · obtain ⟨ts, hts, rfl⟩ : ∃ ts, x.tags = some ts ∧ v = recordsValue tagFields ts := by
          simpa [fields, spanFields, mem_optionalField] using hv
        exact .records (hx.tags ts hts) (fun d ys => { d with tags := some ys }) fun _ => rfl
      · obtain ⟨ls, hls, rfl⟩ : ∃ ls, x.logs = some ls ∧ v = recordsValue logFields ls := by
          simpa [fields, spanFields, mem_optionalField] using hv
        exact .records (hx.logs ls hls) (fun d ys => { d with logs := some ys }) fun _ => rfl
  | log =>
      obtain ⟨rfl, rfl⟩ : id = 2 ∧ k' = .tag := by simpa [inner] using hk
      obtain rfl : v = recordsValue tagFields x.fields := by
        simpa [fields, logFields] using hv
      exact .records hx.fields (fun d ys => { d with fields := some ys }) fun _ => rfl
  | spanRef => simp [inner] at hk
  | tag => simp [inner] at hk

end RecordKind

end SpanIntake.Thrift

/-
**The slots of a draft.**

A draft has a slot for every field that means something to its record.  The field loop puts what it
reads of such a field into the slot, over what was there, and leaves the other slots alone; when
the record is closed it is made of what stands in the slots.  All this is said here once for the six
kinds of record, by a list of slots for each.

Main definitions:

* `Thrift.Slot` — the reader of a field, and how its value is put into a draft and got out again;
* `Thrift.RecordKind.slots` — the slots of a kind, in the order in which their fields are written;
* `Thrift.RecordKind.kept` — the fields that a draft holds;
* `Thrift.ReaderLaw` — what passes from single values to lists and records.

Main results:

* `Thrift.RecordKind.step_cases` — **a field is put into a slot or passed over**;
* `Thrift.RecordKind.get_put_of_ne` — **what is put into one slot leaves the others alone**;
* `Thrift.RecordKind.ext_get` — drafts with the same slots are equal;
* `Thrift.RecordKind.kept_put` — what a slot holds is replaced;
* `Thrift.RecordKind.fields_eq_kept` — **the fields of a record are those its draft holds**;
* `Thrift.ReaderLaw.slots` — **a law of readers holds of every field**.
-/

import Mathlib.Data.List.Basic
import Mathlib.Data.List.Pairwise
import SpanIntake.Proofs.Thrift.RecordKind

set_option relaxedAutoImplicit false
set_option autoImplicit false

namespace SpanIntake.Thrift

/-! ### Slots -/

/-- A place in a draft for the value of one field, as the field loop `step` fills it. -/
structure Slot {σ : Type} (step : σ → Int → WireType → Reader σ) where
  /-- The id of the field. -/
  id : Int16
  /-- The type of the field. -/
  type : WireType
  /-- The values of the field. -/
  {Val : Type}
  /-- Reads a value. -/
  read : Reader Val
  /-- What a value is written as. -/
  value : Val → Value
  /-- What stands in the slot. -/
  get : σ → Option Val
  /-- Puts a value into the slot. -/
  put : σ → Val → σ
  step_eq : ∀ d, step d id.toInt type = read >>= fun x => pure (put d x) := by intro; rfl
  get_put : ∀ d x, get (put d x) = some x := by intros; rfl

namespace Slot

variable {σ : Type} {step : σ → Int → WireType → Reader σ}

/-- The id and the type of the field. -/
def key (s : Slot step) : Int × WireType := (s.id.toInt, s.type)

/-- The field that stands in the slot. -/
def held (s : Slot step) (d : σ) : List Field := optionalField s.id s.value (s.get d)

/-- The two slots have different keys, and filling one leaves the other alone. -/
structure Apart (s t : Slot step) : Prop where
  key_ne : s.key ≠ t.key
  left : ∀ d x, s.get (t.put d x) = s.get d
  right : ∀ d x, t.get (s.put d x) = t.get d

theorem Apart.symm {s t : Slot step} (h : s.Apart t) : t.Apart s :=
  ⟨h.key_ne.symm, h.right, h.left⟩

instance : Std.Symm (@Apart σ step) := ⟨fun _ _ h => h.symm⟩

end Slot

namespace RecordKind

/-- The slots of a kind, in the order in which their fields are written. -/
def slots : (k : RecordKind) → List (Slot k.step)
  | .batch =>
    [{ id := 1, type := .struct, read := readProcess, value := fun p => .struct (processFields p)
       get := (·.process), put := fun d p => { d with process := some p } },
     { id := 2, type := .list, read := listOf readSpan, value := recordsValue spanFields
       get := (·.spans), put := fun d ss => { d with spans := some ss } },
     { id := 3, type := .i64, read := int64, value := .i64
       get := (·.seqNo), put := fun d n => { d with seqNo := some n } }]
  | .process =>
    [{ id := 1, type := .string, read := text, value := textValue
       get := (·.serviceName), put := fun d s => { d with serviceName := some s } },
     { id := 2, type := .list, read := listOf readTag, value := recordsValue tagFields
       get := (·.tags), put := fun d ts => { d with tags := some ts } }]
  | .span =>
    [{ id := 1, type := .i64, read := int64, value := .i64
       get := (·.traceIdLow), put := fun d n => { d with traceIdLow := some n } },
     { id := 2, type := .i64, read := int64, value := .i64
       get := (·.traceIdHigh), put := fun d n => { d with traceIdHigh := some n } },
     { id := 3, type := .i64, read := int64, value := .i64
       get := (·.spanId), put := fun d n => { d with spanId := some n } },
     { id := 4, type := .i64, read := int64, value := .i64
       get := (·.parentSpanId), put := fun d n => { d with parentSpanId := some n } },
     { id := 5, type := .string, read := text, value := textValue
       get := (·.operationName), put := fun d s => { d with operationName := some s } },
     { id := 6, type := .list, read := listOf readSpanRef, value := recordsValue spanRefFields
       get := (·.references), put := fun d rs => { d with references := some rs } },
     { id := 7, type := .i32, read := int32, value := .i32
       get := (·.flags), put := fun d n => { d with flags := some n } },
     { id := 8, type := .i64, read := int64, value := .i64
       get := (·.startTime), put := fun d n => { d with startTime := some n } },
     { id := 9, type := .i64, read := int64, value := .i64
       get := (·.duration), put := fun d n => { d with duration := some n } },
     { id := 10, type := .list, read := listOf readTag, value := recordsValue tagFields
       get := (·.tags), put := fun d ts => { d with tags := some ts } },
     { id := 11, type := .list, read := listOf readLog, value := recordsValue logFields
       get := (·.logs), put := fun d ls => { d with logs := some ls } }]
  | .spanRef =>
    [{ id := 1, type := .i32, read := int32, value := .i32
       get := (·.refType), put := fun d n => { d with refType := some n } },
     { id := 2, type := .i64, read := int64, value := .i64
       get := (·.traceIdLow), put := fun d n => { d with traceIdLow := some n } },
     { id := 3, type := .i64, read := int64, value := .i64
       get := (·.traceIdHigh), put := fun d n => { d with traceIdHigh := some n } },
     { id := 4, type := .i64, read := int64, value := .i64
       get := (·.spanId), put := fun d n => { d with spanId := some n } }]
  | .log =>
    [{ id := 1, type := .i64, read := int64, value := .i64
       get := (·.timestamp), put := fun d n => { d with timestamp := some n } },
     { id := 2, type := .list, read := listOf readTag, value := recordsValue tagFields
       get := (·.fields), put := fun d ts => { d with fields := some ts } }]
  | .tag =>
    [{ id := 1, type := .string, read := text, value := textValue
       get := (·.key), put := fun d s => { d with key := some s } },
     { id := 2, type := .i32, read := int32, value := .i32
       get := (·.vType), put := fun d n => { d with vType := some n } },
     { id := 3, type := .string, read := text, value := textValue
       get := (·.vStr), put := fun d s => { d with vStr := some s } },
     { id := 4, type := .double, read := double, value := .double
       get := (·.vDouble), put := fun d x => { d with vDouble := some x } },
     { id := 5, type := .bool, read := bool, value := .bool
       get := (·.vBool), put := fun d b => { d with vBool := some b } },
     { id := 6, type := .i64, read := int64, value := .i64
       get := (·.vLong), put := fun d n => { d with vLong := some n } },
     { id := 7, type := .string, read := bytes, value := .string
       get := (·.vBinary), put := fun d bs => { d with vBinary := some bs } }]

/-- The slots are those of the fields that mean something. -/
theorem map_key_slots (k : RecordKind) : k.slots.map Slot.key = k.known := by
  cases k <;> rfl

/-! ### Filling one slot -/

/-- **A field is put into the slot of its key, or passed over** where no slot has that key. -/
theorem step_cases (k : RecordKind) (id : Int) (type : WireType) :
    (∃ s ∈ k.slots, s.key = (id, type) ∧
      ∀ d, k.step d id type = s.read >>= fun x => pure (s.put d x)) ∨
    ((∀ s ∈ k.slots, s.key ≠ (id, type)) ∧
      ∀ d, k.step d id type = skip maxDepth type >>= fun _ => pure d) := by
  by_cases hkey : (id, type) ∈ k.slots.map Slot.key
  · obtain ⟨s, hs, hkey⟩ := List.mem_map.1 hkey
    obtain ⟨rfl, rfl⟩ := Prod.mk.inj hkey
    exact .inl ⟨s, hs, rfl, s.step_eq⟩
  · refine .inr ⟨fun s hs heq => hkey (List.mem_map.2 ⟨s, hs, heq⟩), fun d => ?_⟩
    rw [k.map_key_slots] at hkey
    exact k.step_of_not_mem_known d hkey

theorem pairwise_apart (k : RecordKind) : k.slots.Pairwise Slot.Apart := by
  cases k <;> simp only [slots, List.pairwise_cons, List.forall_mem_cons, List.not_mem_nil,
    false_implies, implies_true, List.Pairwise.nil, and_true] <;> and_intros <;>
    exact ⟨by decide, fun _ _ => rfl, fun _ _ => rfl⟩

theorem apart_of_ne {k : RecordKind} {s t : Slot k.step} (hs : s ∈ k.slots) (ht : t ∈ k.slots)
    (h : s ≠ t) : s.Apart t :=
  k.pairwise_apart.forall hs ht h

/-- A key has one slot. -/
theorem eq_of_key_eq {k : RecordKind} {s t : Slot k.step} (hs : s ∈ k.slots) (ht : t ∈ k.slots)
    (h : s.key = t.key) : s = t := by
  by_contra hne
  exact (apart_of_ne hs ht hne).key_ne h

/-- **What is put into one slot leaves the others alone.** -/
theorem get_put_of_ne {k : RecordKind} {s t : Slot k.step} (hs : s ∈ k.slots) (ht : t ∈ k.slots)
    (h : s.key ≠ t.key) (d : k.Draft) (x : t.Val) : s.get (t.put d x) = s.get d := by
  have hne : s ≠ t := fun heq => h (congrArg Slot.key heq)
  exact (apart_of_ne hs ht hne).left d x

theorem get_start {k : RecordKind} {s : Slot k.step} (hs : s ∈ k.slots) :
    s.get k.start = none := by
  revert s
  cases k <;> simp [slots, start]

/-- Drafts with the same slots are equal. -/
theorem ext_get {k : RecordKind} {d e : k.Draft} (h : ∀ s ∈ k.slots, s.get d = s.get e) :
    d = e := by
  cases k <;> cases d <;> cases e <;> simpa [slots] using h

/-! ### What a draft holds -/

/-- The fields that a draft holds. -/
def kept (k : RecordKind) (d : k.Draft) : List Field := k.slots.flatMap fun s => s.held d

theorem kept_start (k : RecordKind) : k.kept k.start = [] := by
  refine List.flatMap_eq_nil_iff.2 fun s hs => ?_
  rw [Slot.held, get_start hs]
  rfl

/-- What a slot holds is replaced, and the fields before it and behind it stay. -/
theorem kept_put {k : RecordKind} {s : Slot k.step} (hs : s ∈ k.slots) (d : k.Draft) (x : s.Val) :
    ∃ fs gs, k.kept d = fs ++ s.held d ++ gs ∧
      k.kept (s.put d x) = fs ++ (s.id, s.value x) :: gs := by
  obtain ⟨before, behind, hslots⟩ := List.append_of_mem hs
  have hapart := k.pairwise_apart
  rw [hslots, List.pairwise_append, List.pairwise_cons] at hapart
  obtain ⟨-, ⟨hbehind, -⟩, hbefore⟩ := hapart
  have hself : s.held (s.put d x) = [(s.id, s.value x)] := by
    rw [Slot.held, s.get_put]
    rfl
  have hothers {ts : List (Slot k.step)} (hts : ∀ t ∈ ts, t.Apart s) :
      ts.flatMap (fun t => t.held (s.put d x)) = ts.flatMap fun t => t.held d := by
    refine List.flatMap_congr fun t ht => ?_
    rw [Slot.held, (hts t ht).left]
    rfl
  refine ⟨before.flatMap fun t => t.held d, behind.flatMap fun t => t.held d, ?_, ?_⟩
  · rw [kept, hslots, List.flatMap_append, List.flatMap_cons, List.append_assoc]
  · rw [kept, hslots, List.flatMap_append, List.flatMap_cons, hself,
      hothers fun t ht => hbefore t ht s List.mem_cons_self,
      hothers fun t ht => (hbehind t ht).symm]
    rfl

theorem optionalField_some {α : Type} (id : Int16) (value : α → Value) (x : α) :
    optionalField id value (some x) = [(id, value x)] := rfl

/-- A field that a record must have is there where the record is made. -/
theorem exists_of_required {α β : Type} {record field : String} {o : Option α} {f : α → Reader β}
    {bs : Bytes} {p : β × Bytes} (h : (required record field o >>= f).run bs = .ok p) :
    ∃ x, o = some x ∧ (f x).run bs = .ok p := by
  cases o with
  | none => cases h
  | some x => exact ⟨x, rfl, h⟩

/-- **The fields of a record are those its draft holds**, and making the record takes no bytes. -/
theorem fields_eq_kept {k : RecordKind} {d : k.Draft} {x : k.Record} {bs rest : Bytes}
    (h : (k.finish d).run bs = .ok (x, rest)) : k.fields x = k.kept d ∧ rest = bs := by
  cases k with
  | batch =>
      obtain ⟨_, _, seqNo⟩ := d
      obtain ⟨process, rfl, h⟩ := exists_of_required h
      obtain ⟨spans, rfl, h⟩ := exists_of_required h
      cases h
      simp [kept, slots, Slot.held, fields, batchFields, optionalField_some]
  | process =>
      obtain ⟨_, tags⟩ := d
      obtain ⟨serviceName, rfl, h⟩ := exists_of_required h
      cases h
      simp [kept, slots, Slot.held, fields, processFields, optionalField_some]
  | span =>
      obtain ⟨_, _, _, _, _, references, _, _, _, tags, logs⟩ := d
      obtain ⟨traceIdLow, rfl, h⟩ := exists_of_required h
      obtain ⟨traceIdHigh, rfl, h⟩ := exists_of_required h
      obtain ⟨spanId, rfl, h⟩ := exists_of_required h
      obtain ⟨parentSpanId, rfl, h⟩ := exists_of_required h
      obtain ⟨operationName, rfl, h⟩ := exists_of_required h
      obtain ⟨flags, rfl, h⟩ := exists_of_required h
      obtain ⟨startTime, rfl, h⟩ := exists_of_required h
      obtain ⟨duration, rfl, h⟩ := exists_of_required h
      cases h
      simp [kept, slots, Slot.held, fields, spanFields, optionalField_some]
  | spanRef =>
      obtain ⟨_, _, _, _⟩ := d
      obtain ⟨refType, rfl, h⟩ := exists_of_required h
      obtain ⟨traceIdLow, rfl, h⟩ := exists_of_required h
      obtain ⟨traceIdHigh, rfl, h⟩ := exists_of_required h
      obtain ⟨spanId, rfl, h⟩ := exists_of_required h
      cases h
      simp [kept, slots, Slot.held, fields, spanRefFields, optionalField_some]
  | log =>
      obtain ⟨_, _⟩ := d
      obtain ⟨timestamp, rfl, h⟩ := exists_of_required h
      obtain ⟨tags, rfl, h⟩ := exists_of_required h
      cases h
      simp [kept, slots, Slot.held, fields, logFields, optionalField_some]
  | tag =>
      obtain ⟨_, _, vStr, vDouble, vBool, vLong, vBinary⟩ := d
      obtain ⟨key, rfl, h⟩ := exists_of_required h
      obtain ⟨vType, rfl, h⟩ := exists_of_required h
      cases h
      simp [kept, slots, Slot.held, fields, tagFields, optionalField_some]

end RecordKind

/-! ### Laws of all readers -/

/-- What holds of the readers of single values, of lists if it holds of their items, and of records
if it holds of their fields. -/
structure ReaderLaw (P : (α : Type) → Reader α → (α → Value) → Prop) : Prop where
  int32 : P Int32 int32 .i32
  int64 : P Int64 int64 .i64
  double : P Double double .double
  bool : P Bool bool .bool
  bytes : P Bytes bytes .string
  text : P String text textValue
  /-- A list has the law of its items. -/
  list : ∀ {α : Type} {item : Reader α} {fields : α → List Field},
    P α item (fun x => .struct (fields x)) → P (List α) (listOf item) (recordsValue fields)
  /-- A record has the law of its fields. -/
  record : ∀ k : RecordKind, (∀ s ∈ k.slots, P s.Val s.read s.value) →
    P k.Record k.read fun x => .struct (k.fields x)

/-- **A law of readers holds of every field**, from the tags up to the batch. -/
theorem ReaderLaw.slots {P : (α : Type) → Reader α → (α → Value) → Prop} (h : ReaderLaw P)
    (k : RecordKind) : ∀ s ∈ k.slots, P s.Val s.read s.value := by
  have htag : ∀ s ∈ RecordKind.tag.slots, P s.Val s.read s.value := by
    simp only [RecordKind.slots, List.forall_mem_cons]
    exact ⟨h.text, h.int32, h.text, h.double, h.bool, h.int64, h.bytes, by simp⟩
  have htags : P _ (listOf readTag) (recordsValue tagFields) := h.list (h.record .tag htag)
  have hlog : ∀ s ∈ RecordKind.log.slots, P s.Val s.read s.value := by
    simp only [RecordKind.slots, List.forall_mem_cons]
    exact ⟨h.int64, htags, by simp⟩
  have hspanRef : ∀ s ∈ RecordKind.spanRef.slots, P s.Val s.read s.value := by
    simp only [RecordKind.slots, List.forall_mem_cons]
    exact ⟨h.int32, h.int64, h.int64, h.int64, by simp⟩
  have hspan : ∀ s ∈ RecordKind.span.slots, P s.Val s.read s.value := by
    have hreferences := h.list (h.record .spanRef hspanRef)
    have hlogs := h.list (h.record .log hlog)
    simp only [RecordKind.slots, List.forall_mem_cons]
    exact ⟨h.int64, h.int64, h.int64, h.int64, h.text, hreferences, h.int32, h.int64, h.int64,
      htags, hlogs, by simp⟩
  have hprocess : ∀ s ∈ RecordKind.process.slots, P s.Val s.read s.value := by
    simp only [RecordKind.slots, List.forall_mem_cons]
    exact ⟨h.text, htags, by simp⟩
  cases k with
  | tag => exact htag
  | log => exact hlog
  | spanRef => exact hspanRef
  | span => exact hspan
  | process => exact hprocess
  | batch =>
      simp only [RecordKind.slots, List.forall_mem_cons]
      exact ⟨h.record .process hprocess, h.list (h.record .span hspan), h.int64, by simp⟩

end SpanIntake.Thrift

/-
**Trace data is read back from its JSON form.**

Every record is an object with the names of its fields, each of them once, so that a reader finds
each field where it looks for it.  An attribute value has no mark of its type, but truth values,
integers, texts and byte strings have shapes of their own.  A double that is not finite has none, so
that the laws here are about data without doubles; and they are about times outside leap seconds,
since a leap second is written as one only at the end of a minute.

Main definitions:

* `TraceData.NoDoubles` and its like — no attribute value is a double.

Main results:

* `Json.record?_ofFields` — the fields of a record are found by their names;
* `AttributeValue.ofJson?_toJson` — **a value that is no double keeps its type**;
* `Span.ofJson?_toJson` — a consistent span without doubles is read back;
* `TraceData.read?_write` — the same for trace data and its text.
-/

import SpanIntake.Proofs.Intake.Consistent
import SpanIntake.Proofs.Json.Reading
import SpanIntake.Proofs.Time.Rfc3339
import SpanIntake.Proofs.Trace.Attributes
import SpanIntake.Trace.JsonForm

set_option relaxedAutoImplicit false
set_option autoImplicit false

namespace SpanIntake

/-! ### Records and lists -/

namespace Json

theorem find?_eq_of_mem {fields : List (String × Json)} (h : (fields.map (·.1)).Nodup)
    {f : String × Json} (hf : f ∈ fields) : fields.find? (·.1 == f.1) = some f := by
  induction fields with
  | nil => cases hf
  | cons g fs ih =>
      rw [List.map_cons, List.nodup_cons] at h
      rcases List.mem_cons.1 hf with rfl | hf
      · exact List.find?_cons_of_pos (beq_self_eq_true _)
      · have hne : g.1 ≠ f.1 := by
          intro heq
          exact h.1 (heq ▸ List.mem_map_of_mem hf)
        rw [List.find?_cons_of_neg (by simpa using hne)]
        exact ih h.2 hf

theorem length_filter_name_le_one {fields : List (String × Json)}
    (h : (fields.map (·.1)).Nodup) (name : String) :
    (fields.filter (·.1 == name)).length ≤ 1 := by
  have hcount := List.nodup_iff_count.1 h name
  rwa [List.count_eq_countP, List.countP_map, List.countP_eq_length_filter] at hcount

theorem ofFields_eq (fields : List (String × Json)) :
    ofFields fields = .object (fields.map fun f => (some f.1, f.2)) := rfl

/-- The fields whose names are texts are looked through, if no name asked for repeats. -/
theorem record?_object (names : List String) (fields : List (Option String × Json)) :
    (Json.object fields).record? names =
      let known := fields.filterMap fun f => f.1.map fun name => (name, f.2)
      if known.length = fields.length ∧
          names.all (fun n => (known.filter (·.1 == n)).length ≤ 1) then
        some (names.map fun n => (known.find? (·.1 == n)).map (·.2))
      else none := rfl

/-- **The fields of a record are found by their names.** -/
theorem record?_ofFields {names : List String} {fields : List (String × Json)}
    (hnames : fields.map (·.1) = names) (h : names.Nodup) :
    (ofFields fields).record? names = some (fields.map fun f => some f.2) := by
  subst hnames
  have hknown : (fields.map fun f => (some f.1, f.2)).filterMap
      (fun f => f.1.map fun name => (name, f.2)) = fields := by
    rw [List.filterMap_map]
    exact List.filterMap_some
  have hfound : (fields.map (·.1)).map (fun n => (fields.find? (·.1 == n)).map (·.2)) =
      fields.map fun f => some f.2 := by
    rw [List.map_map]
    refine List.map_congr_left fun f hf => ?_
    rw [Function.comp_apply, find?_eq_of_mem h hf, Option.map_some]
  have honce : (fields.map (·.1)).all (fun n => (fields.filter (·.1 == n)).length ≤ 1) = true :=
    List.all_eq_true.2 fun n _ => decide_eq_true (length_filter_name_le_one h n)
  rw [ofFields_eq, record?_object]
  simp only [hknown, List.length_map, honce, and_self, if_true, hfound]

end Json

variable {α β : Type}

/-- A list is read back if its items are. -/
theorem mapM_map_eq_some {f : α → β} {g : β → Option α} {xs : List α}
    (h : ∀ x ∈ xs, g (f x) = some x) : (xs.map f).mapM g = some xs := by
  induction xs with
  | nil => rfl
  | cons x xs ih =>
      obtain ⟨hx, hxs⟩ := List.forall_mem_cons.1 h
      rw [List.map_cons, List.mapM_cons, hx, ih hxs]
      rfl

/-! ### Leaves -/

theorem Id.ofJson?_toJson {k : IdKind} (i : Id k) : Id.ofJson? k i.toJson = some i := by
  simp only [Id.ofJson?, Id.toJson, Json.ofText, Json.text?, Option.bind_eq_bind,
    Option.bind_some, Id.parse_toHex]

theorem Instant.ofJson?_toJson {t : Instant} (h : t.IsOrdinary) :
    Instant.ofJson? t.toJson = some t := by
  simp only [Instant.ofJson?, Instant.toJson, Json.ofText, Json.text?, Option.bind_some,
    Rfc3339.read?_write h]

theorem SpanKind.ofJson?_ofText (k : SpanKind) :
    SpanKind.ofJson? (.ofText k.jsonName) = some k := by
  cases k <;> decide

theorem ReferenceKind.ofName?_name (k : ReferenceKind) : ofName? k.name = some k := by
  cases k <;> decide

theorem StatusCode.ofExactName?_name (c : StatusCode) : ofExactName? c.name = some c := by
  cases c <;> decide

theorem SourceFormat.ofName?_name (f : SourceFormat) : ofName? f.name = some f := by
  cases f <;> decide

/-! ### Attribute values -/

namespace Json

/-- An integer of 64 bits is read back from its numeral. -/
theorem value?_toDigits {n : Int} (h : fitsInt64 n = true) :
    NumberText.value? ⟨n < 0, Nat.toDigits 10 n.natAbs, [], none⟩ = some (.int n) := by
  obtain ⟨hmin, hmax⟩ := fitsInt64_iff.1 h
  have hminValue : Int64.minValue.toInt = -9223372036854775808 := rfl
  have hmaxValue : Int64.maxValue.toInt = 9223372036854775807 := rfl
  have hword : UInt64.size = 18446744073709551616 := rfl
  simp only [NumberText.value?, List.isEmpty_nil, Option.isNone_none, and_self, if_true,
    digitsValue_toDigits]
  by_cases hneg : n < 0
  · have hsize : 0 < n.natAbs ∧ n.natAbs ≤ 9223372036854775808 := by omega
    have hvalue : -(n.natAbs : Int) = n := by omega
    rw [if_pos (decide_eq_true hneg), if_pos hsize, hvalue]
  · have hsize : n.natAbs < UInt64.size := by omega
    have hvalue : (n.natAbs : Int) = n := by omega
    rw [if_neg (by simpa using hneg), if_pos hsize, hvalue]

end Json

namespace AttributeValue

/-- The value is a double. -/
def isDouble : AttributeValue → Bool
  | .double _ => true
  | _ => false

theorem byteOfJson?_ofInt (b : UInt8) : byteOfJson? (.ofInt b.toNat) = some b := by
  have hb := b.toNat_lt
  have hmin : Int64.minValue.toInt ≤ 0 := by decide
  have hmax : 256 ≤ Int64.maxValue.toInt := by decide
  have hfits : fitsInt64 (b.toNat : Int) = true := fitsInt64_iff.2 (by omega)
  have hrange : 0 ≤ (b.toNat : Int) ∧ (b.toNat : Int) < 256 := by omega
  simp only [byteOfJson?, Json.ofInt, Json.value?_toDigits hfits, if_pos hrange, Int.toNat_natCast,
    UInt8.ofNat_toNat]

/-- **A value that is no double keeps its type.** -/
theorem ofJson?_toJson {v : AttributeValue} (h : v.isDouble = false) :
    ofJson? v.toJson = some v := by
  cases v with
  | bool b => rfl
  | int n =>
      have hfits := fitsInt64_toInt n
      simp only [toJson, ofJson?, Json.ofInt, Json.value?_toDigits hfits, if_pos hfits,
        Int64.ofInt_toInt]
  | double d => cases h
  | text s => rfl
  | bytes bs =>
      have hbytes : (bs.map fun b => Json.ofInt b.toNat).mapM byteOfJson? = some bs :=
        mapM_map_eq_some fun b _ => byteOfJson?_ofInt b
      simp only [toJson, ofJson?, hbytes, Option.map_some]

theorem wellFormed_toJson {v : AttributeValue} (h : v.isDouble = false) : v.toJson.WellFormed := by
  cases v with
  | bool b => exact .bool b
  | int n => exact .number (Json.wellFormed_toDigits _ _)
  | double d => cases h
  | text s => exact .text s
  | bytes bs =>
      refine .list fun v hv => ?_
      obtain ⟨b, _, rfl⟩ := List.mem_map.1 hv
      exact .number (Json.wellFormed_toDigits _ _)

end AttributeValue

namespace Attributes

/-- No value is a double. -/
def NoDoubles (a : Attributes) : Prop := ∀ x ∈ a.entries, x.2.isDouble = false

instance (a : Attributes) : Decidable a.NoDoubles :=
  inferInstanceAs (Decidable (∀ x ∈ a.entries, x.2.isDouble = false))

theorem ofJson?_toJson {a : Attributes} (h : a.NoDoubles) : ofJson? a.toJson = some a := by
  have hentries : ((a.entries.map fun x => (x.1, x.2.toJson)).map
      fun f => (some f.1, f.2)).mapM (fun (field : Option String × Json) => do
        pure (← field.1, ← AttributeValue.ofJson? field.2)) = some a.entries := by
    rw [List.map_map]
    refine mapM_map_eq_some fun x hx => ?_
    simp only [Function.comp_apply, AttributeValue.ofJson?_toJson (h x hx), Option.bind_eq_bind,
      Option.bind_some]
    rfl
  simp only [toJson, Json.ofFields_eq, ofJson?, hentries, Option.map_some, ofList_entries]

theorem wellFormed_toJson {a : Attributes} (h : a.NoDoubles) : a.toJson.WellFormed := by
  refine .object fun f hf => ?_
  obtain ⟨x, hx, rfl⟩ := List.mem_map.1 hf
  exact AttributeValue.wellFormed_toJson (h x hx)

end Attributes

/-! ### Records -/

namespace Status

theorem ofJson?_toJson (s : Status) : ofJson? s.toJson = some s := by
  have hrecord : s.toJson.record? ["code", "message"] =
      some [some (.ofText s.code.name), some (.ofText s.message)] :=
    Json.record?_ofFields rfl (by decide)
  rw [ofJson?, hrecord]
  dsimp only [Json.ofText, Json.choice?, Json.text?, Option.bind_eq_bind, Option.bind_some]
  rw [StatusCode.ofExactName?_name]
  rfl

theorem wellFormed_toJson (s : Status) : s.toJson.WellFormed := by
  refine .object ?_
  simp only [List.forall_mem_cons]
  exact ⟨.text _, .text _, nofun⟩

end Status

namespace SpanReference

theorem ofJson?_toJson (r : SpanReference) : ofJson? r.toJson = some r := by
  have hrecord : r.toJson.record? ["trace_id", "span_id", "kind"] =
      some [some r.traceId.toJson, some r.spanId.toJson, some (.ofText r.kind.name)] :=
    Json.record?_ofFields rfl (by decide)
  rw [ofJson?, hrecord]
  dsimp only [Json.ofText, Json.choice?, Option.bind_eq_bind, Option.bind_some]
  rw [Id.ofJson?_toJson, Id.ofJson?_toJson, ReferenceKind.ofName?_name]
  rfl

theorem wellFormed_toJson (r : SpanReference) : r.toJson.WellFormed := by
  refine .object ?_
  simp only [List.forall_mem_cons]
  exact ⟨.text _, .text _, .text _, nofun⟩

end SpanReference

namespace TimeEvent

variable {e : TimeEvent}

theorem ofJson?_toJson (htime : e.time.IsOrdinary) (h : e.attributes.NoDoubles) :
    ofJson? e.toJson = some e := by
  have hrecord : e.toJson.record? ["time", "attributes"] =
      some [some e.time.toJson, some e.attributes.toJson] :=
    Json.record?_ofFields rfl (by decide)
  rw [ofJson?, hrecord]
  dsimp only [Option.bind_eq_bind, Option.bind_some]
  rw [Instant.ofJson?_toJson htime, Attributes.ofJson?_toJson h]
  rfl

theorem wellFormed_toJson (h : e.attributes.NoDoubles) : e.toJson.WellFormed := by
  refine .object ?_
  simp only [List.forall_mem_cons]
  exact ⟨.text _, Attributes.wellFormed_toJson h, nofun⟩

end TimeEvent

namespace Span

variable {s : Span}

/-- No attribute value of the span or of its events is a double. -/
structure NoDoubles (s : Span) : Prop where
  /-- None of the span's own. -/
  attributes : s.attributes.NoDoubles
  /-- None of an event. -/
  events : ∀ e ∈ s.events, e.attributes.NoDoubles

instance (s : Span) : Decidable s.NoDoubles :=
  decidable_of_iff (s.attributes.NoDoubles ∧ ∀ e ∈ s.events, e.attributes.NoDoubles)
    ⟨fun h => ⟨h.1, h.2⟩, fun h => ⟨h.attributes, h.events⟩⟩

theorem parentOfJson?_parentToJson (parent : Option SpanId) :
    parentOfJson? (some (parentToJson parent)) = some parent := by
  cases parent with
  | none => rfl
  | some p => exact congrArg (Option.map some) (Id.ofJson?_toJson p)

/-- A consistent span without doubles is read back: its times lie in no leap second. -/
theorem ofJson?_toJson (hs : s.Consistent) (h : s.NoDoubles) : ofJson? s.toJson = some s := by
  have hrecord : s.toJson.record? fieldNames =
      some [some s.traceId.toJson, some s.spanId.toJson, some (parentToJson s.parent),
        some (.ofText s.name), some (.ofText s.kind.jsonName), some s.startTime.toJson,
        some s.endTime.toJson, some s.status.toJson, some s.attributes.toJson,
        some (.list (s.references.map SpanReference.toJson)),
        some (.list (s.events.map TimeEvent.toJson))] :=
    Json.record?_ofFields rfl (by decide)
  have hreferences : (s.references.map SpanReference.toJson).mapM SpanReference.ofJson? =
      some s.references :=
    mapM_map_eq_some fun r _ => r.ofJson?_toJson
  have hevents : (s.events.map TimeEvent.toJson).mapM TimeEvent.ofJson? = some s.events :=
    mapM_map_eq_some fun e he => TimeEvent.ofJson?_toJson (hs.events e he) (h.events e he)
  have hname : (Json.ofText s.name).text? = some s.name := rfl
  have hstart := Instant.ofJson?_toJson hs.startTime
  have hend := Instant.ofJson?_toJson hs.endTime
  have hattributes := Attributes.ofJson?_toJson h.attributes
  -- the fields are rewritten in turn: `simp` would go through all that follows a field again
  rw [ofJson?, hrecord]
  dsimp only [Option.bind_eq_bind, Option.bind_some, Json.list?]
  rw [Id.ofJson?_toJson, Id.ofJson?_toJson, parentOfJson?_parentToJson, hname,
    SpanKind.ofJson?_ofText, hstart, hend, Status.ofJson?_toJson, hattributes, hreferences, hevents]
  rfl

theorem wellFormed_toJson (h : s.NoDoubles) : s.toJson.WellFormed := by
  have hreferences : (Json.list (s.references.map SpanReference.toJson)).WellFormed := by
    refine .list fun v hv => ?_
    obtain ⟨r, _, rfl⟩ := List.mem_map.1 hv
    exact r.wellFormed_toJson
  have hevents : (Json.list (s.events.map TimeEvent.toJson)).WellFormed := by
    refine .list fun v hv => ?_
    obtain ⟨e, he, rfl⟩ := List.mem_map.1 hv
    exact TimeEvent.wellFormed_toJson (h.events e he)
  have hparent : (parentToJson s.parent).WellFormed := by
    cases s.parent with
    | none => exact .null
    | some p => exact .text _
  refine .object ?_
  simp only [List.forall_mem_cons]
  exact ⟨.text _, .text _, hparent, .text _, .text _, .text _, .text _, s.status.wellFormed_toJson,
    Attributes.wellFormed_toJson h.attributes, hreferences, hevents, nofun⟩

end Span

namespace ProcessInfo

variable {p : ProcessInfo}

theorem ofJson?_toJson (h : p.attributes.NoDoubles) : ofJson? p.toJson = some p := by
  have hrecord : p.toJson.record? ["service_name", "attributes"] =
      some [some (.ofText p.serviceName), some p.attributes.toJson] :=
    Json.record?_ofFields rfl (by decide)
  have hname : (Json.ofText p.serviceName).text? = some p.serviceName := rfl
  rw [ofJson?, hrecord]
  dsimp only [Option.bind_eq_bind, Option.bind_some]
  rw [hname, Attributes.ofJson?_toJson h]
  rfl

theorem wellFormed_toJson (h : p.attributes.NoDoubles) : p.toJson.WellFormed := by
  refine .object ?_
  simp only [List.forall_mem_cons]
  exact ⟨.text _, Attributes.wellFormed_toJson h, nofun⟩

end ProcessInfo

namespace TraceData

variable {d : TraceData}

/-- No attribute value of the process or of a span is a double. -/
structure NoDoubles (d : TraceData) : Prop where
  /-- None of the process. -/
  process : d.process.attributes.NoDoubles
  /-- None of a span. -/
  spans : ∀ s ∈ d.spans, s.NoDoubles

instance (d : TraceData) : Decidable d.NoDoubles :=
  decidable_of_iff (d.process.attributes.NoDoubles ∧ ∀ s ∈ d.spans, s.NoDoubles)
    ⟨fun h => ⟨h.1, h.2⟩, fun h => ⟨h.process, h.spans⟩⟩

theorem ofJson?_toJson (hspans : ∀ s ∈ d.spans, s.Consistent) (h : d.NoDoubles) :
    ofJson? d.toJson = some d := by
  have hrecord : d.toJson.record? ["process", "spans", "source_format"] =
      some [some d.process.toJson, some (.list (d.spans.map Span.toJson)),
        some (.ofText d.sourceFormat.name)] :=
    Json.record?_ofFields rfl (by decide)
  have hspans : (d.spans.map Span.toJson).mapM Span.ofJson? = some d.spans :=
    mapM_map_eq_some fun s hs => Span.ofJson?_toJson (hspans s hs) (h.spans s hs)
  rw [ofJson?, hrecord]
  dsimp only [Json.ofText, Json.choice?, Json.list?, Option.bind_eq_bind, Option.bind_some]
  rw [ProcessInfo.ofJson?_toJson h.process, hspans, SourceFormat.ofName?_name]
  rfl

theorem wellFormed_toJson (h : d.NoDoubles) : d.toJson.WellFormed := by
  have hspans : (Json.list (d.spans.map Span.toJson)).WellFormed := by
    refine .list fun v hv => ?_
    obtain ⟨s, hs, rfl⟩ := List.mem_map.1 hv
    exact Span.wellFormed_toJson (h.spans s hs)
  refine .object ?_
  simp only [List.forall_mem_cons]
  exact ⟨ProcessInfo.wellFormed_toJson h.process, hspans, .text _, nofun⟩

/-- Trace data is read back from its text. -/
theorem read?_write (hspans : ∀ s ∈ d.spans, s.Consistent) (h : d.NoDoubles) :
    read? d.toJson.write = some d := by
  rw [read?, Json.read?_write (wellFormed_toJson h), Option.bind_some, ofJson?_toJson hspans h]

end TraceData

end SpanIntake

/-
**Decoding and encoding again.**

Whatever bytes a batch is read from, it is written in no more bytes than were taken for it.  What
is read of a field is written in as many bytes at most; a later field takes the place of an earlier
one, and a field without a meaning is left out.  So a draft is, after any number of fields, written
in no more bytes than they had, and the lengths in it fit their size fields, since they came out of
such.  The bytes that are written are read as the same batch, and written as they are.

Main definitions:

* `Thrift.Covers` — the bytes that a reader takes are enough to write its value;
* `Thrift.RecordKind.Covered` — so many bytes are enough to write what a draft holds;
* `Thrift.canonical` — the bytes of the batch that bytes begin with.

Main results:

* `Thrift.RecordKind.covered_step` — every field keeps the draft covered;
* `Thrift.RecordKind.covers_read`, `Thrift.readerLaw_covers` — **a record is written in no more
  bytes than it was read from**;
* `Thrift.Batch.encodable_of_wellFormed` — a batch whose lengths came out of size fields can be
  encoded;
* `Thrift.canonical_of_decode` — **decoding and encoding again never grows, and changes nothing the
  second time**.
-/

import SpanIntake.Proofs.Thrift.Consumption
import SpanIntake.Proofs.Thrift.Slot
import SpanIntake.Proofs.Thrift.Truncation
import SpanIntake.Proofs.Thrift.UnknownFields

set_option relaxedAutoImplicit false
set_option autoImplicit false

namespace SpanIntake.Thrift

variable {α : Type}

/-! ### Single values -/

/-- The bytes that a reader takes are enough to write its value, and lengths in it fit. -/
def Covers (r : Reader α) (value : α → Value) : Prop :=
  Yields r fun x n => (value x).WellFormed ∧ (value x).bytes.length ≤ n

theorem covers_int32 : Covers int32 .i32 := by
  refine yields_int32.mono fun x n hn => ⟨.of_children_eq_nil trivial rfl, ?_⟩
  simp [hn, Value.bytes, writeInt32]

theorem covers_int64 : Covers int64 .i64 := by
  refine yields_int64.mono fun x n hn => ⟨.of_children_eq_nil trivial rfl, ?_⟩
  simp [hn, Value.bytes, writeInt64]

theorem covers_double : Covers double .double := by
  refine yields_double.mono fun x n hn => ⟨.of_children_eq_nil trivial rfl, ?_⟩
  simp [hn, Value.bytes, writeDouble]

theorem covers_bool : Covers bool .bool := by
  refine yields_bool.mono fun x n hn => ⟨.of_children_eq_nil trivial rfl, ?_⟩
  simp [hn, Value.bytes, writeBool]

theorem length_writeBytes (bs : Bytes) : (writeBytes bs).length = 4 + bs.length := by
  simp [writeBytes]

theorem covers_bytes : Covers bytes .string := by
  refine yields_bytes.mono fun bs n hn => ⟨.of_children_eq_nil hn.1 rfl, ?_⟩
  rw [hn.2]
  exact Nat.le_of_eq (length_writeBytes bs)

theorem covers_text : Covers text textValue := by
  refine yields_text.mono fun s n hn => ⟨.of_children_eq_nil hn.1 rfl, ?_⟩
  rw [hn.2]
  exact Nat.le_of_eq (length_writeBytes (Utf8.encode s))

/-- A list is covered where its items are. -/
theorem covers_listOf {item : Reader α} {fields : α → List Field}
    (h : Covers item fun x => .struct (fields x)) :
    Covers (listOf item) (recordsValue fields) := by
  refine (yields_listOf h).mono fun xs n hxs => ?_
  obtain ⟨hlength, hwell, hsum⟩ := hxs
  constructor
  · refine .intro ⟨by rwa [List.length_map], ?_⟩ ?_
    · intro v hv
      obtain ⟨x, _, rfl⟩ := List.mem_map.1 hv
      rfl
    · intro v hv
      obtain ⟨x, hx, rfl⟩ := List.mem_map.1 hv
      exact hwell x hx
  · rw [recordsValue, Value.bytes, itemsBytes_eq, List.length_append, List.length_flatMap,
      List.map_map, itemsHead, List.length_cons, Bytes.length_bigEndian]
    simp only [Function.comp_def]
    omega

/-! ### Records -/

namespace RecordKind

/-- So many bytes are enough to write what a draft holds, and lengths in it fit. -/
structure Covered (k : RecordKind) (d : k.Draft) (n : Nat) : Prop where
  wellFormed : ∀ f ∈ k.kept d, f.2.WellFormed
  length_le : (fieldsBytes (k.kept d)).length ≤ n

theorem covered_start (k : RecordKind) : k.Covered k.start 0 := by
  constructor
  · simp [k.kept_start]
  · simp [k.kept_start, fieldsBytes_nil]

/-- A head and a value are enough for what takes the place of a slot. -/
theorem Covered.put {k : RecordKind} {d : k.Draft} {n : Nat} (hd : k.Covered d n)
    {s : Slot k.step} (hs : s ∈ k.slots) {x : s.Val} {m : Nat} (hx : (s.value x).WellFormed)
    (hm : (s.value x).bytes.length ≤ m) : k.Covered (s.put d x) (n + 3 + m) := by
  obtain ⟨fs, gs, hold, hnew⟩ := kept_put hs d x
  obtain ⟨hwell, hlength⟩ := hd
  rw [hold] at hwell hlength
  constructor
  · rw [hnew]
    intro f hf
    rcases List.mem_append.1 hf with hf | hf
    · exact hwell f (by simp [hf])
    · rcases List.mem_cons.1 hf with rfl | hf
      · exact hx
      · exact hwell f (by simp [hf])
  · rw [hnew]
    simp only [fieldsBytes_append, fieldsBytes_cons, Field.bytes, writeHead, List.length_append,
      List.length_cons, Bytes.length_bigEndian] at hlength ⊢
    omega

/-- **Every field keeps the draft covered**, also one that means nothing. -/
theorem covered_step {k : RecordKind} (h : ∀ s ∈ k.slots, Covers s.read s.value) {d : k.Draft}
    {n : Nat} (hd : k.Covered d n) (id : Int) (type : WireType) :
    Yields (k.step d id type) fun e m => k.Covered e (n + 3 + m) := by
  rcases k.step_cases id type with ⟨s, hs, -, hstep⟩ | ⟨-, hstep⟩
  · rw [hstep]
    exact (h s hs).map fun x m hx => hd.put hs hx.1 hx.2
  · rw [hstep]
    refine (yields_skip maxDepth type).bind fun _ m _ => .pure ⟨hd.wellFormed, ?_⟩
    have hle := hd.length_le
    omega

/-- **A record is written in no more bytes than it was read from**, where the values of its fields
are. -/
theorem covers_read {k : RecordKind} (h : ∀ s ∈ k.slots, Covers s.read s.value) :
    Covers k.read fun x => .struct (k.fields x) := by
  rw [k.read_eq]
  have hloop := yields_fields (I := k.Covered) k.covered_start
    fun d id type n hd => covered_step h hd id type
  refine hloop.bind fun d n hn => ?_
  obtain ⟨l, rfl, hd⟩ := hn
  intro bs x rest hrun
  obtain ⟨hfields, rfl⟩ := fields_eq_kept hrun
  refine ⟨[], rfl, ?_, ?_⟩
  · show (Value.struct (k.fields x)).WellFormed
    rw [hfields, Value.wellFormed_struct_iff]
    exact hd.wellFormed
  · have hle := hd.length_le
    show (fieldsBytes (k.fields x) ++ stop).length ≤ l + 1 + 0
    rw [hfields, List.length_append, stop, List.length_singleton]
    omega

end RecordKind

/-- **Every field is covered**, whatever its kind of record. -/
theorem readerLaw_covers : ReaderLaw fun _ r value => Covers r value where
  int32 := covers_int32
  int64 := covers_int64
  double := covers_double
  bool := covers_bool
  bytes := covers_bytes
  text := covers_text
  list := covers_listOf
  record _ h := RecordKind.covers_read h

/-! ### Lengths out of size fields -/

theorem fitsText_of_wellFormed {s : String} (h : (textValue s).WellFormed) : FitsText s := h.fits

theorem fitsList_of_wellFormed {fields : α → List Field} {P : α → Prop} {xs : List α}
    (h : (recordsValue fields xs).WellFormed)
    (hP : ∀ x, (Value.struct (fields x)).WellFormed → P x) : FitsList P xs := by
  constructor
  · have hlength := h.fits.1
    rwa [List.length_map] at hlength
  · intro x hx
    exact hP x (h.child (List.mem_map_of_mem hx))

theorem Tag.encodable_of_wellFormed {t : Tag} (h : (Value.struct (tagFields t)).WellFormed) :
    t.Encodable := by
  rw [Value.wellFormed_struct_iff] at h
  refine ⟨?_, fun s hs => ?_, fun bs hbs => ?_⟩
  · exact fitsText_of_wellFormed (h (1, textValue t.key) (by simp [tagFields]))
  · refine fitsText_of_wellFormed (h (3, textValue s) ?_)
    simp [tagFields, RecordKind.mem_optionalField, hs]
  · refine (h (7, .string bs) ?_).fits
    simp [tagFields, RecordKind.mem_optionalField, hbs]

theorem Log.encodable_of_wellFormed {l : Log} (h : (Value.struct (logFields l)).WellFormed) :
    l.Encodable := by
  rw [Value.wellFormed_struct_iff] at h
  have hfields := h (2, recordsValue tagFields l.fields) (by simp [logFields])
  exact ⟨fitsList_of_wellFormed hfields fun _ => Tag.encodable_of_wellFormed⟩

theorem Span.encodable_of_wellFormed {s : Span} (h : (Value.struct (spanFields s)).WellFormed) :
    s.Encodable := by
  rw [Value.wellFormed_struct_iff] at h
  refine ⟨?_, fun rs hrs => ?_, fun ts hts => ?_, fun ls hls => ?_⟩
  · exact fitsText_of_wellFormed (h (5, textValue s.operationName) (by simp [spanFields]))
  · have hvalue := h (6, recordsValue spanRefFields rs)
      (by simp [spanFields, RecordKind.mem_optionalField, hrs])
    exact (fitsList_of_wellFormed (P := fun _ => True) hvalue fun _ _ => trivial).1
  · have hvalue := h (10, recordsValue tagFields ts)
      (by simp [spanFields, RecordKind.mem_optionalField, hts])
    exact fitsList_of_wellFormed hvalue fun _ => Tag.encodable_of_wellFormed
  · have hvalue := h (11, recordsValue logFields ls)
      (by simp [spanFields, RecordKind.mem_optionalField, hls])
    exact fitsList_of_wellFormed hvalue fun _ => Log.encodable_of_wellFormed

theorem ProcessInfo.encodable_of_wellFormed {p : ProcessInfo}
    (h : (Value.struct (processFields p)).WellFormed) : p.Encodable := by
  rw [Value.wellFormed_struct_iff] at h
  refine ⟨?_, fun ts hts => ?_⟩
  · exact fitsText_of_wellFormed (h (1, textValue p.serviceName) (by simp [processFields]))
  · have hvalue := h (2, recordsValue tagFields ts)
      (by simp [processFields, RecordKind.mem_optionalField, hts])
    exact fitsList_of_wellFormed hvalue fun _ => Tag.encodable_of_wellFormed

/-- A batch whose lengths came out of size fields can be encoded. -/
theorem Batch.encodable_of_wellFormed {b : Batch} (h : (Value.struct (batchFields b)).WellFormed) :
    b.Encodable := by
  rw [Value.wellFormed_struct_iff] at h
  refine ⟨?_, ?_⟩
  · have hprocess := h (1, .struct (processFields b.process)) (by simp [batchFields])
    exact ProcessInfo.encodable_of_wellFormed hprocess
  · have hspans := h (2, recordsValue spanFields b.spans) (by simp [batchFields])
    exact fitsList_of_wellFormed hspans fun _ => Span.encodable_of_wellFormed

/-! ### The canonical bytes of a batch -/

/-- The bytes of the batch that bytes begin with. -/
def canonical (bs : Bytes) : Except Error Bytes := decode bs >>= encode

/-- A batch that is read can be encoded, in no more bytes than were taken for it. -/
theorem exists_taken_of_run {bs rest : Bytes} {b : Batch}
    (h : readBatch.run bs = .ok (b, rest)) :
    ∃ taken, bs = taken ++ rest ∧ b.Encodable ∧ (writeBatch b).length ≤ taken.length := by
  have hcovers : Covers readBatch fun b => .struct (batchFields b) :=
    RecordKind.covers_read (readerLaw_covers.slots .batch)
  obtain ⟨taken, htaken, hwell, hlength⟩ := hcovers bs b rest h
  rw [bytes_batchFields] at hlength
  exact ⟨taken, htaken, Batch.encodable_of_wellFormed hwell, hlength⟩

/-- **Decoding and encoding again never grows, and changes nothing the second time.**  Whatever
bytes a batch is read from, it can be encoded, in no more bytes than were read; it is decoded from
these as it was, and they are canonical themselves. -/
theorem canonical_of_decode {bs : Bytes} {b : Batch} (h : decode bs = .ok b) :
    ∃ taken rest cs, bs = taken ++ rest ∧ readBatch.run bs = .ok (b, rest) ∧
      encode b = .ok cs ∧ cs.length ≤ taken.length ∧ decode cs = .ok b ∧
      canonical bs = .ok cs ∧ canonical cs = .ok cs := by
  obtain ⟨rest, hrun⟩ := decode_eq_ok_iff.1 h
  obtain ⟨taken, htaken, hb, hlength⟩ := exists_taken_of_run hrun
  have hencode := encode_eq_ok hb
  have hagain : decode (writeBatch b) = .ok b := by
    have hrun := run_readBatch_writeBatch hb []
    rw [List.append_nil] at hrun
    exact decode_eq_ok_iff.2 ⟨[], hrun⟩
  refine ⟨taken, rest, writeBatch b, htaken, hrun, hencode, hlength, hagain, ?_, ?_⟩
  · rw [canonical, h]
    exact hencode
  · rw [canonical, hagain]
    exact hencode

/-- The batch stands behind a map that no tag has, and more bytes follow. -/
theorem canonical_of_decode_mixedBatchWithMap :
    decode ((Value.struct mixedBatchWithMap).bytes ++ [12, 0]) = .ok mixedBatch ∧
    ∃ taken rest cs, (Value.struct mixedBatchWithMap).bytes ++ [12, 0] = taken ++ rest ∧
      readBatch.run ((Value.struct mixedBatchWithMap).bytes ++ [12, 0]) = .ok (mixedBatch, rest) ∧
      encode mixedBatch = .ok cs ∧ cs.length ≤ taken.length ∧ decode cs = .ok mixedBatch ∧
      canonical ((Value.struct mixedBatchWithMap).bytes ++ [12, 0]) = .ok cs ∧
      canonical cs = .ok cs := by
  have hpass : mapField.2.pass maxDepth = .ok () := rfl
  have hdecode := decode_of_inserted encodable_mixedBatch wellFormed_mapField inserted_mapField [12, 0]
  rw [hpass] at hdecode
  exact ⟨hdecode, canonical_of_decode hdecode⟩

end SpanIntake.Thrift

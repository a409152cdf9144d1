/-
**Declared types of items.**

A list begins with the type of its items.  Lists are meant to be read as they are declared: a list
of anything but records is nothing that a batch has.  But the readers of lists take the declared
type off the bytes and never look at it again.  So whatever type a list declares, at any depth of a
batch, its items are read as records; all that is refused is a byte that is no type at all.

Main definitions:

* `Thrift.ListPlace` — bytes of a record with a place in them where a list stands;
* `Thrift.ReadAsDeclared` — that lists are read as they are declared.

Main results:

* `Thrift.run_listOf_declared` — a list of any declared type is read as records;
* `Thrift.ListPlace.alike` — **lists that are read alike are read alike wherever they stand**;
* `Thrift.exists_decode_declared` — the spans of any batch may be declared of any type;
* `Thrift.readAsDeclared_iff` — **when a list is read as declared**;
* `Thrift.not_readAsDeclared` — **where it is not**.
-/

import SpanIntake.Proofs.Thrift.FieldOrder

set_option relaxedAutoImplicit false
set_option autoImplicit false

namespace SpanIntake.Thrift

variable {α : Type}

/-! ### One list -/

/-- What a list of records is behind its declared type: a size, and so many of them. -/
theorem listOf_eq (item : Reader α) : listOf item = wireType >>= fun _ => int32 >>= fun size =>
    if size.toInt < 0 then throw (.negativeListSize size.toInt)
    else many item size.toInt.toNat := by
  simp only [listOf, listHead, bind_assoc, pure_bind]

/-- **A list of any declared type is read as records.** -/
theorem run_listOf_declared (item : Reader α) (element other : WireType) (bs : Bytes) :
    (listOf item).run (UInt8.ofNat element.code :: bs) =
      (listOf item).run (UInt8.ofNat other.code :: bs) := by
  have htype (type : WireType) : wireType.run (UInt8.ofNat type.code :: bs) = .ok (type, bs) :=
    gives_wireType type bs
  rw [listOf_eq, StateT.run_bind, StateT.run_bind, htype, htype]
  rfl

/-- A byte that is no type is refused. -/
theorem run_listOf_unknown (item : Reader α) {b : UInt8} (hb : WireType.ofCode? b.toNat = none)
    (bs : Bytes) : (listOf item).run (b :: bs) = .error (.unknownType b.toNat) := by
  have htype : wireType.run (b :: bs) = .error (.unknownType b.toNat) := by
    have hbyte : byte.run (b :: bs) = pure (b, bs) := gives_byte b bs
    rw [wireType, StateT.run_bind, hbyte, pure_bind]
    dsimp only
    rw [hb]
    rfl
  rw [listOf_eq, StateT.run_bind, htype]
  rfl

/-! ### Lists within records -/

open RecordKind in
/-- Bytes that a record of the kind `k` begins with, with a place where the value of a field stands
that is read as a list of records of the kind `k'`: a field of the record itself, of the record that
a field holds, or of a record in the list that a field holds.  What stands in front of the place can
be read. -/
inductive ListPlace : RecordKind → RecordKind → (Bytes → Bytes) → Prop
  | here {k k' : RecordKind} {id : Int16} {fs : List RawField}
      (front : ∀ f ∈ fs, k.Readable f) (hk : (id, k') ∈ k.inner)
      (hknown : (id.toInt, .list) ∈ k.known) :
      ListPlace k k' fun list => rawBytes fs ++ (writeHead .list id.toUInt16.toNat ++ list)
  | inRecord {k l k' : RecordKind} {id : Int16} {fs : List RawField} {C : Bytes → Bytes}
      (front : ∀ f ∈ fs, k.Readable f) (hl : (id, l) ∈ k.inner)
      (hknown : (id.toInt, .struct) ∈ k.known) (inside : ListPlace l k' C) :
      ListPlace k k' fun list => rawBytes fs ++ (writeHead .struct id.toUInt16.toNat ++ C list)
  | inItem {k l k' : RecordKind} {id : Int16} {fs : List RawField} {element : WireType} {n : Nat}
      {us : List Bytes} {C : Bytes → Bytes}
      (front : ∀ f ∈ fs, k.Readable f) (hl : (id, l) ∈ k.inner)
      (hknown : (id.toInt, .list) ∈ k.known) (hlimit : n < listLimit)
      (items : ∀ u ∈ us, ∃ x, l.read.run u = .ok (x, [])) (hn : us.length < n)
      (inside : ListPlace l k' C) :
      ListPlace k k' fun list => rawBytes fs ++ (writeHead .list id.toUInt16.toNat ++
        (itemsHead element n ++ (us.flatten ++ C list)))

/-- Where a field may have either value, a record may have either field in front of its rest. -/
theorem RecordKind.alike_read_of_step_nil {k : RecordKind} {fs : List RawField}
    (hfs : ∀ f ∈ fs, k.Readable f) {id : Int16} {type : WireType} (htype : type ≠ .stop)
    {v w : Bytes} (h : ∀ d, Alike (k.step d id.toInt type) v w) :
    Alike k.read (rawBytes fs ++ (writeHead type id.toUInt16.toNat ++ v))
      (rawBytes fs ++ (writeHead type id.toUInt16.toNat ++ w)) := by
  simpa using alike_read_of_step hfs htype h []

/-- **Lists that are read alike are read alike wherever they stand.**  The induction is on the
place. -/
theorem ListPlace.alike {k k' : RecordKind} {C : Bytes → Bytes} (hC : ListPlace k k' C)
    {v w : Bytes} (h : Alike (listOf k'.read) v w) : Alike k.read (C v) (C w) := by
  induction hC with
  | here front hk hknown =>
      obtain ⟨put, hstep⟩ := RecordKind.exists_step_records hk hknown
      refine RecordKind.alike_read_of_step_nil front (by decide) fun d => ?_
      rw [hstep d]
      exact h.bind _
  | inRecord front hl hknown inside ih =>
      obtain ⟨put, hstep⟩ := RecordKind.exists_step_record hl hknown
      refine RecordKind.alike_read_of_step_nil front (by decide) fun d => ?_
      rw [hstep d]
      exact (ih h).bind _
  | @inItem k l k' id fs element n us C front hl hknown hlimit items hn inside ih =>
      obtain ⟨put, hstep⟩ := RecordKind.exists_step_records hl hknown
      have hus : ∀ u ∈ us, ∃ x, Gives l.read u (.ok x) := by
        intro u hu
        obtain ⟨x, hx⟩ := items u hu
        exact ⟨x, l.steady_read.gives hx⟩
      refine RecordKind.alike_read_of_step_nil front (by decide) fun d => ?_
      rw [hstep d]
      exact (alike_listOf (ih h) hus hn hlimit element).bind _

/-- **Whatever type a list declares, wherever it stands, it is read as the same records**, or fails
for the same reason. -/
theorem ListPlace.run_declared {k k' : RecordKind} {C : Bytes → Bytes} (hC : ListPlace k k' C)
    (element other : WireType) (bs rest : Bytes) :
    k.read.run (C (UInt8.ofNat element.code :: bs) ++ rest) =
      k.read.run (C (UInt8.ofNat other.code :: bs) ++ rest) :=
  hC.alike (fun rest => run_listOf_declared k'.read element other (bs ++ rest)) rest

theorem ListPlace.decode_declared {k' : RecordKind} {C : Bytes → Bytes}
    (hC : ListPlace .batch k' C) (element other : WireType) (bs rest : Bytes) :
    decode (C (UInt8.ofNat element.code :: bs) ++ rest) =
      decode (C (UInt8.ofNat other.code :: bs) ++ rest) := by
  have hrun : readBatch.run (C (UInt8.ofNat element.code :: bs) ++ rest) =
      readBatch.run (C (UInt8.ofNat other.code :: bs) ++ rest) :=
    hC.run_declared element other bs rest
  rw [decode, decode, hrun]

/-! ### Batches -/

/-- The process in front of the spans of a batch. -/
theorem readable_process {p : ProcessInfo} (hp : p.Encodable) :
    RecordKind.batch.Readable ⟨1, .struct, writeProcess p⟩ := by
  have hread : readProcess.run (writeProcess p) = .ok (p, []) := by
    have hgives := gives_readProcess hp []
    rwa [List.append_nil, bytes_processFields] at hgives
  refine ⟨{ process := some p }, ?_⟩
  show (readProcess >>= fun p => pure ({ process := some p } : BatchDraft)).run (writeProcess p) = _
  rw [StateT.run_bind, hread]
  rfl

/-- A batch with a list behind its process, where the spans belong. -/
def behindProcess (p : ProcessInfo) (list : Bytes) : Bytes :=
  rawBytes [⟨1, .struct, writeProcess p⟩] ++ (writeHead .list 2 ++ list)

theorem listPlace_behindProcess {p : ProcessInfo} (hp : p.Encodable) :
    ListPlace .batch .span (behindProcess p) :=
  @ListPlace.here .batch .span 2 _ (by simpa using readable_process hp) (by decide) (by decide)

theorem exists_writeBatch_eq (b : Batch) : ∃ bs,
    writeBatch b = behindProcess b.process (UInt8.ofNat WireType.struct.code :: bs) := by
  have hid : (Int16.toUInt16 1).toNat = 1 := rfl
  refine ⟨Bytes.bigEndian 4 b.spans.length ++ (b.spans.flatMap writeSpan ++
    (writeOptional .i64 3 writeInt64 b.seqNo ++ stop)), ?_⟩
  simp [writeBatch, behindProcess, rawBytes, RawField.written, writeList, hid]

/-- **The spans of a batch may be declared of any type.** -/
theorem exists_decode_declared {b : Batch} (hb : b.Encodable) :
    ∃ C bs, ListPlace .batch .span C ∧ encode b = .ok (C (UInt8.ofNat WireType.struct.code :: bs)) ∧
      ∀ element : WireType, decode (C (UInt8.ofNat element.code :: bs)) = .ok b := by
  obtain ⟨bs, hbytes⟩ := exists_writeBatch_eq b
  have hplace := listPlace_behindProcess hb.process
  obtain ⟨bs', hencode, hdecode⟩ := decode_encode_append hb
  have hwritten : bs' = behindProcess b.process (UInt8.ofNat WireType.struct.code :: bs) := by
    rw [← hbytes]
    exact Except.ok.inj (hencode.symm.trans (encode_eq_ok hb))
  rw [hwritten] at hencode hdecode
  refine ⟨behindProcess b.process, bs, hplace, hencode, fun element => ?_⟩
  have hsame := hplace.decode_declared element .struct bs []
  rw [(hdecode []).2, List.append_nil] at hsame
  exact hsame

/-! ### Reading as declared -/

/-- A list is read as it is declared: where a batch that holds it is read, and it has items, it is
declared as one of records. -/
def ReadAsDeclared (C : Bytes → Bytes) (element : WireType) (n : Nat) (items : Bytes) : Prop :=
  0 < n → ∀ b, decode (C (itemsHead element n ++ items)) = .ok b → element = .struct

/-- **When a list is read as declared.**  It is one of records, or it is empty, or as one of records
it could not be read; for the declared type makes no difference to what is read of the batch, or to
why it cannot be read.  Only a byte that is no type at all is refused. -/
theorem readAsDeclared_iff {k : RecordKind} {C : Bytes → Bytes} (hC : ListPlace .batch k C)
    (element : WireType) (n : Nat) (items : Bytes) :
    (ReadAsDeclared C element n items ↔
      element = .struct ∨ n = 0 ∨ ∀ b, decode (C (itemsHead .struct n ++ items)) ≠ .ok b) ∧
    (∀ (other : WireType) (bs rest : Bytes),
      decode (C (UInt8.ofNat element.code :: bs) ++ rest) =
        decode (C (UInt8.ofNat other.code :: bs) ++ rest)) ∧
    ∀ (b : UInt8) (bs : Bytes), WireType.ofCode? b.toNat = none →
      (listOf k.read).run (b :: bs) = .error (.unknownType b.toNat) := by
  have hsame := hC.decode_declared element .struct (Bytes.bigEndian 4 n ++ items) []
  rw [List.append_nil, List.append_nil] at hsame
  refine ⟨⟨fun h => ?_, ?_⟩, hC.decode_declared element, fun b bs hb =>
    run_listOf_unknown k.read hb bs⟩
  · by_cases hn : n = 0
    · exact .inr (.inl hn)
    · by_cases hread : ∃ b, decode (C (itemsHead .struct n ++ items)) = .ok b
      · obtain ⟨b, hb⟩ := hread
        exact .inl (h (Nat.pos_of_ne_zero hn) b (hsame.trans hb))
      · exact .inr (.inr fun b hb => hread ⟨b, hb⟩)
  · rintro (rfl | rfl | hnone) hn b hb
    · rfl
    · exact absurd hn (Nat.lt_irrefl 0)
    · exact absurd (hsame.symm.trans hb) (hnone b)

/-- A batch without spans, whose process has a list in its field of tags. -/
def listingBatch (list : Bytes) : Bytes :=
  rawBytes [⟨2, .list, itemsHead .struct 0⟩] ++ (writeHead .struct 1 ++
    (rawBytes [⟨1, .string, writeText "svc"⟩] ++ (writeHead .list 2 ++ list)))

theorem listPlace_listingBatch : ListPlace .batch .tag listingBatch :=
  @ListPlace.inRecord .batch .process .tag 1 _ _ (by simpa using ⟨_, rfl⟩) (by decide) (by decide)
    (@ListPlace.here .process .tag 2 _ (by simpa using ⟨_, rfl⟩) (by decide) (by decide))

/-- An empty tag, and the ends of a process and of a batch. -/
def disguisedTag : Bytes := writeTag ⟨"", 0, none, none, none, none, none⟩ ++ (stop ++ stop)

/-- A list that is declared as one of integers could be read as one of records, and is. -/
theorem readAsDeclared_iff_listingBatch :
    ListPlace .batch .tag listingBatch ∧
    (ReadAsDeclared listingBatch .i64 1 disguisedTag ↔
      ∀ b, decode (listingBatch (itemsHead .struct 1 ++ disguisedTag)) ≠ .ok b) ∧
    decode (listingBatch (itemsHead .i64 1 ++ disguisedTag) ++ []) =
      .ok ⟨⟨"svc", some [⟨"", 0, none, none, none, none, none⟩]⟩, [], none⟩ ∧
    WireType.ofCode? (5 : UInt8).toNat = none ∧
    (listOf readTag).run [5] = .error (.unknownType 5) := by
  obtain ⟨hiff, hsame, hunknown⟩ := readAsDeclared_iff listPlace_listingBatch .i64 1 disguisedTag
  refine ⟨listPlace_listingBatch, hiff.trans ?_, ?_, by decide, hunknown 5 [] (by decide)⟩
  · simp
  · exact (hsame .struct (Bytes.bigEndian 4 1 ++ disguisedTag) []).trans rfl

/-- **A list that is not read as declared.**  Of a list of one integer the field of tags makes a
tag.  Where such a list is passed over, the integer is eight bytes, and the seven bytes of the tag
behind them are left. -/
theorem not_readAsDeclared :
    ¬ ReadAsDeclared listingBatch .i64 1 disguisedTag ∧
    decode (listingBatch (itemsHead .i64 1 ++ disguisedTag)) =
      .ok ⟨⟨"svc", some [⟨"", 0, none, none, none, none, none⟩]⟩, [], none⟩ ∧
    (skip maxDepth .list).run (itemsHead .i64 1 ++ disguisedTag) =
      .ok ((), disguisedTag.drop 8) := by
  have hdecode : decode (listingBatch (itemsHead .i64 1 ++ disguisedTag)) =
      .ok ⟨⟨"svc", some [⟨"", 0, none, none, none, none, none⟩]⟩, [], none⟩ := rfl
  refine ⟨fun h => ?_, hdecode, rfl⟩
  cases h Nat.one_pos _ hdecode

end SpanIntake.Thrift

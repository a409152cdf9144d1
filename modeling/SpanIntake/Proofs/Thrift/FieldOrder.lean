/-
**Fields in any order.**

The fields of a record may stand in any order, and a field may stand there again and again: of the
fields with one id and one type the last one counts.  So two runs of fields that agree in the last
field of every id and type that mean something are read as the same record, or lack the same
field.  Since a record within a record is read by a reader that sees nothing but its bytes, its own
fields may stand in another order too, and so on down to the tags.

Main definitions:

* `Thrift.RawField` — a field as it stands on the wire, `Thrift.recordBytes` — fields and their end;
* `Thrift.RecordKind.Readable` — a field that can be read by itself;
* `Thrift.RecordKind.Rearranged` — the same record with other fields in front of the last ones, or
  in another order, in itself or in a record within.

Main results:

* `Thrift.RecordKind.run_fields_written` — **a slot is left with the value of the last field of its
  key**;
* `Thrift.RecordKind.closes_finish` — when a record is closed, nothing but the lack of a field can
  be found;
* `Thrift.RecordKind.alike_of_rearranged`, `Thrift.read_of_rearranged` — **the order of fields makes
  no difference**, at any depth.
-/

import SpanIntake.Proofs.Keyed.Last
import SpanIntake.Proofs.Thrift.Canonical

set_option relaxedAutoImplicit false
set_option autoImplicit false

namespace SpanIntake.Thrift

open Keyed

variable {α β : Type}

/-! ### Fields on the wire -/

/-- A field as it stands on the wire. -/
structure RawField where
  /-- The id. -/
  id : Int16
  /-- The type of the value. -/
  type : WireType
  /-- The bytes of the value. -/
  bytes : Bytes

/-- What decides where the value of a field goes. -/
def RawField.key (f : RawField) : Int × WireType := (f.id.toInt, f.type)

/-- A field with its head. -/
def RawField.written (f : RawField) : Bytes := writeHead f.type f.id.toUInt16.toNat ++ f.bytes

/-- The bytes of fields, without the end of their record. -/
def rawBytes (fs : List RawField) : Bytes := fs.flatMap RawField.written

/-- The bytes of a record. -/
def recordBytes (fs : List RawField) : Bytes := rawBytes fs ++ stop

/-- What a slot's reader makes of the value of a field. -/
def Slot.valueOf {σ : Type} {step : σ → Int → WireType → Reader σ} (s : Slot step) (f : RawField) :
    Option s.Val :=
  (s.read.run f.bytes).toOption.map Prod.fst

theorem exists_of_run_map {r : Reader α} {g : α → β} {bs rest : Bytes} {y : β}
    (h : (r >>= fun x => pure (g x)).run bs = .ok (y, rest)) :
    ∃ x, r.run bs = .ok (x, rest) := by
  rw [StateT.run_bind] at h
  cases hrun : r.run bs with
  | error e => rw [hrun] at h; cases h
  | ok p =>
      rw [hrun] at h
      cases h
      exact ⟨p.1, rfl⟩

namespace RecordKind

/-- A field can be read by itself: its value takes just its bytes. -/
def Readable (k : RecordKind) (f : RawField) : Prop :=
  ∃ d, (k.step k.start f.id.toInt f.type).run f.bytes = .ok (d, [])

/-- Every key that means something has the same last field. -/
def SameFields (k : RecordKind) (fs gs : List RawField) : Prop :=
  ∀ key ∈ k.known, last? RawField.key key fs = last? RawField.key key gs

/-! ### The readers of fields -/

theorem yields_step (k : RecordKind) (d : k.Draft) (id : Int) (type : WireType) :
    Yields (k.step d id type) fun _ _ => True := by
  rcases k.step_cases id type with ⟨s, hs, -, hstep⟩ | ⟨-, hstep⟩
  · rw [hstep]
    exact (readerLaw_covers.slots k s hs).map fun _ _ _ => trivial
  · rw [hstep]
    exact (yields_skip maxDepth type).map fun _ _ _ => trivial

/-- The end of a record is no type of a field. -/
theorem Readable.type_ne_stop {k : RecordKind} {f : RawField} (hf : k.Readable f) :
    f.type ≠ .stop := by
  intro htype
  obtain ⟨d, hrun⟩ := hf
  rcases k.step_cases f.id.toInt f.type with ⟨s, hs, hkey, -⟩ | ⟨-, hstep⟩
  · have hmem : s.key ∈ k.known := k.map_key_slots ▸ List.mem_map_of_mem hs
    rw [hkey, htype] at hmem
    cases k <;> simp [known] at hmem
  · rw [hstep, htype] at hrun
    cases hrun

/-- A field that can be read by itself is read into any draft: its value goes into the slot of its
key, and all other slots stay. -/
theorem gives_step {k : RecordKind} {f : RawField} (hf : k.Readable f) (d : k.Draft) :
    ∃ e, Gives (k.step d f.id.toInt f.type) f.bytes (.ok e) ∧
      ∀ s ∈ k.slots, s.get e = if f.key = s.key then s.valueOf f else s.get d := by
  obtain ⟨_, hrun⟩ := hf
  rcases k.step_cases f.id.toInt f.type with ⟨s, hs, hkey, hstep⟩ | ⟨hkey, hstep⟩
  · rw [hstep] at hrun
    obtain ⟨x, hread⟩ := exists_of_run_map hrun
    refine ⟨s.put d x, ?_, fun t ht => ?_⟩
    · rw [hstep]
      exact ((readerLaw_steady.slots k s hs).gives hread).map (s.put d)
    · by_cases h : f.key = t.key
      · obtain rfl := eq_of_key_eq hs ht (hkey.trans h)
        rw [if_pos h, s.get_put, Slot.valueOf, hread]
        rfl
      · rw [if_neg h]
        exact get_put_of_ne ht hs (fun heq => h (heq.trans hkey).symm) d x
  · rw [hstep] at hrun
    obtain ⟨_, hskip⟩ := exists_of_run_map hrun
    refine ⟨d, ?_, fun t ht => ?_⟩
    · rw [hstep]
      exact ((steady_skip maxDepth f.type).gives hskip).map fun _ => d
    · rw [if_neg fun heq => hkey t ht heq.symm]

/-! ### The field loop -/

/-- One field of the loop. -/
theorem run_fields_cons {k : RecordKind} {type : WireType} (htype : type ≠ .stop) (id : Int16)
    (d : k.Draft) (cs : Bytes) :
    (Thrift.fields k.step d).run (writeHead type id.toUInt16.toNat ++ cs) =
      (k.step d id.toInt type >>= Thrift.fields k.step).run cs := by
  rw [fields_eq k.yields_step, StateT.run_bind, gives_fieldHead htype id cs]
  rfl

/-- **A slot is left with the value of the last field of its key**, and the loop goes on from
there.  The induction is on the fields, and the draft that the loop has come to is any. -/
theorem run_fields_written {k : RecordKind} {fs : List RawField} (hfs : ∀ f ∈ fs, k.Readable f)
    (d : k.Draft) :
    ∃ e, (∀ cs, (Thrift.fields k.step d).run (rawBytes fs ++ cs) =
        (Thrift.fields k.step e).run cs) ∧
      ∀ s ∈ k.slots, s.get e = (last? RawField.key s.key fs).elim (s.get d) s.valueOf := by
  induction fs generalizing d with
  | nil => exact ⟨d, fun _ => rfl, fun _ _ => rfl⟩
  | cons f fs ih =>
      obtain ⟨hf, hfs⟩ := List.forall_mem_cons.1 hfs
      obtain ⟨mid, hfirst, hmid⟩ := gives_step hf d
      obtain ⟨e, hmore, he⟩ := ih hfs mid
      refine ⟨e, fun cs => ?_, fun s hs => ?_⟩
      · have hbytes : rawBytes (f :: fs) ++ cs =
            writeHead f.type f.id.toUInt16.toNat ++ (f.bytes ++ (rawBytes fs ++ cs)) := by
          simp [rawBytes, RawField.written]
        rw [hbytes, run_fields_cons hf.type_ne_stop, StateT.run_bind, hfirst]
        exact hmore cs
      · rw [he s hs, hmid s hs, last?_cons]
        cases last? RawField.key s.key fs with
        | some g => rfl
        | none =>
            by_cases hkey : f.key = s.key
            · rw [if_pos hkey, if_pos hkey]
              rfl
            · rw [if_neg hkey, if_neg hkey]
              rfl

theorem gives_fields_stop (k : RecordKind) (d : k.Draft) :
    Gives (Thrift.fields k.step d) stop (.ok d) := by
  rw [fields_eq k.yields_step]
  exact Gives.bind_nil gives_fieldHead_stop (Gives.pure d)

end RecordKind

/-! ### The end of a record -/

/-- A record, or the lack of a field that it must have. -/
inductive Closing : Except Error α → Prop
  | ok (x : α) : Closing (.ok x)
  | missing (record field : String) : Closing (.error (.missingField record field))

/-- Without taking bytes the reader makes a record, or finds that a field lacks. -/
def Closes (r : Reader α) : Prop := ∃ o, Closing o ∧ Gives r [] o

theorem Closes.pure (x : α) : Closes (pure x : Reader α) := ⟨.ok x, .ok x, Gives.pure x⟩

theorem Closes.required {record field : String} {o : Option α} {f : α → Reader β}
    (hf : ∀ x, Closes (f x)) : Closes (required record field o >>= f) := by
  cases o with
  | none => exact ⟨_, .missing record field, fun _ => rfl⟩
  | some x => exact hf x

namespace RecordKind

/-- **When a record is closed, nothing but the lack of a field can be found.** -/
theorem closes_finish (k : RecordKind) (d : k.Draft) : Closes (k.finish d) := by
  cases k with
  | batch | log | tag => exact .required fun _ => .required fun _ => .pure _
  | process => exact .required fun _ => .pure _
  | spanRef =>
      exact .required fun _ => .required fun _ => .required fun _ => .required fun _ => .pure _
  | span =>
      refine .required fun _ => .required fun _ => .required fun _ => .required fun _ => ?_
      exact .required fun _ => .required fun _ => .required fun _ => .required fun _ => .pure _

/-- **What comes of a record is decided by the last field of every key that means something.** -/
theorem exists_closing {k : RecordKind} {fs : List RawField} (hfs : ∀ f ∈ fs, k.Readable f) :
    ∃ o, Closing o ∧ ∀ gs, (∀ f ∈ gs, k.Readable f) → k.SameFields fs gs →
      Gives k.read (recordBytes gs) o := by
  obtain ⟨d, -, hd⟩ := run_fields_written hfs k.start
  obtain ⟨o, ho, hfinish⟩ := k.closes_finish d
  refine ⟨o, ho, fun gs hgs hsame => ?_⟩
  obtain ⟨e, hloop, he⟩ := run_fields_written hgs k.start
  obtain rfl : d = e := by
    refine ext_get fun s hs => ?_
    have hkey : s.key ∈ k.known := k.map_key_slots ▸ List.mem_map_of_mem hs
    rw [hd s hs, he s hs, hsame s.key hkey]
  rw [k.read_eq]
  refine Gives.bind_nil (fun rest => ?_) hfinish
  rw [recordBytes, List.append_assoc, hloop]
  exact k.gives_fields_stop d rest

end RecordKind

/-! ### Bytes that are read alike -/

/-- Whatever follows, the reader does the same on both. -/
def Alike (r : Reader α) (v w : Bytes) : Prop := ∀ rest, r.run (v ++ rest) = r.run (w ++ rest)

theorem Gives.alike {r : Reader α} {v w : Bytes} {o : Except Error α} (hv : Gives r v o)
    (hw : Gives r w o) : Alike r v w :=
  fun rest => (hv rest).trans (hw rest).symm

theorem Alike.bind {r : Reader α} {v w : Bytes} (h : Alike r v w) (f : α → Reader β) :
    Alike (r >>= f) v w := by
  intro rest
  rw [StateT.run_bind, StateT.run_bind, h rest]

/-- The same bytes in front. -/
theorem Alike.after {r : Reader α} {f : α → Reader β} {bs v w : Bytes} {x : α}
    (h : Alike (f x) v w) (hr : Gives r bs (.ok x)) : Alike (r >>= f) (bs ++ v) (bs ++ w) := by
  intro rest
  rw [List.append_assoc, List.append_assoc, StateT.run_bind, StateT.run_bind, hr, hr]
  exact h rest

/-- The item behind those that are read one by one. -/
theorem alike_many {item : Reader α} {us : List Bytes} {v w : Bytes} (h : Alike item v w)
    (hus : ∀ u ∈ us, ∃ x, Gives item u (.ok x)) {n : Nat} (hn : us.length < n) :
    Alike (many item n) (us.flatten ++ v) (us.flatten ++ w) := by
  induction us generalizing n with
  | nil =>
      cases n with
      | zero => cases hn
      | succ n => exact h.bind _
  | cons u us ih =>
      cases n with
      | zero => cases hn
      | succ n =>
          obtain ⟨⟨x, hu⟩, hus⟩ := List.forall_mem_cons.1 hus
          have hmore := ih hus (Nat.lt_of_succ_lt_succ hn)
          rw [List.flatten_cons, List.append_assoc, List.append_assoc]
          show Alike (item >>= fun x => many item n >>= fun xs => pure (x :: xs)) _ _
          exact Alike.after (hmore.bind _) hu

theorem alike_listOf {item : Reader α} {us : List Bytes} {v w : Bytes} (h : Alike item v w)
    (hus : ∀ u ∈ us, ∃ x, Gives item u (.ok x)) {n : Nat} (hn : us.length < n)
    (hlimit : n < listLimit) (element : WireType) :
    Alike (listOf item) (itemsHead element n ++ (us.flatten ++ v))
      (itemsHead element n ++ (us.flatten ++ w)) := by
  have hnonneg : ¬ ((n : Int) < 0) := by omega
  refine Alike.after ?_ (gives_listHead element hlimit)
  simp only [hnonneg, if_false, Int.toNat_natCast]
  exact alike_many h hus hn

/-! ### Records within records -/

namespace RecordKind

/-- A field that holds one record is read by the reader of that record. -/
theorem exists_step_record {k k' : RecordKind} {id : Int16} (hk : (id, k') ∈ k.inner)
    (hknown : (id.toInt, .struct) ∈ k.known) :
    ∃ put : k.Draft → k'.Record → k.Draft,
      ∀ d, k.step d id.toInt .struct = k'.read >>= fun y => pure (put d y) := by
  cases k with
  | batch =>
      obtain ⟨rfl, rfl⟩ | ⟨rfl, rfl⟩ : id = 1 ∧ k' = .process ∨ id = 2 ∧ k' = .span := by
        simpa [inner] using hk
      · exact ⟨fun d y => { d with process := some y }, fun _ => rfl⟩
      · exact absurd hknown (by decide)
  | process | span | spanRef | log | tag => simp [known] at hknown

/-- A field that holds a list of records is read by the reader of these. -/
theorem exists_step_records {k k' : RecordKind} {id : Int16} (hk : (id, k') ∈ k.inner)
    (hknown : (id.toInt, .list) ∈ k.known) :
    ∃ put : k.Draft → List k'.Record → k.Draft,
      ∀ d, k.step d id.toInt .list = listOf k'.read >>= fun ys => pure (put d ys) := by
  cases k with
  | batch =>
      obtain ⟨rfl, rfl⟩ | ⟨rfl, rfl⟩ : id = 1 ∧ k' = .process ∨ id = 2 ∧ k' = .span := by
        simpa [inner] using hk
      · exact absurd hknown (by decide)
      · exact ⟨fun d ys => { d with spans := some ys }, fun _ => rfl⟩
  | process =>
      obtain ⟨rfl, rfl⟩ : id = 2 ∧ k' = .tag := by simpa [inner] using hk
      exact ⟨fun d ys => { d with tags := some ys }, fun _ => rfl⟩
  | span =>
      obtain ⟨rfl, rfl⟩ | ⟨rfl, rfl⟩ | ⟨rfl, rfl⟩ :
          id = 6 ∧ k' = .spanRef ∨ id = 10 ∧ k' = .tag ∨ id = 11 ∧ k' = .log := by
        simpa [inner] using hk
      · exact ⟨fun d ys => { d with references := some ys }, fun _ => rfl⟩
      · exact ⟨fun d ys => { d with tags := some ys }, fun _ => rfl⟩
      · exact ⟨fun d ys => { d with logs := some ys }, fun _ => rfl⟩
  | log =>
      obtain ⟨rfl, rfl⟩ : id = 2 ∧ k' = .tag := by simpa [inner] using hk
      exact ⟨fun d ys => { d with fields := some ys }, fun _ => rfl⟩
  | spanRef | tag => simp [inner] at hk

/-- The bytes of a record of a kind, before and after its fields are put into another order, or
other fields come in front of the last ones: the fields of the record itself, of the record that a
field holds, or of a record in the list that a field holds.  What stands in front of such a field,
or of such a record in a list, can be read; what stands behind may be anything. -/
inductive Rearranged : RecordKind → Bytes → Bytes → Prop
  | here {k : RecordKind} {fs gs : List RawField} (before : ∀ f ∈ fs, k.Readable f)
      (after : ∀ f ∈ gs, k.Readable f) (same : k.SameFields fs gs) :
      Rearranged k (recordBytes fs) (recordBytes gs)
  | inRecord {k k' : RecordKind} {id : Int16} {fs : List RawField} {v w behind : Bytes}
      (front : ∀ f ∈ fs, k.Readable f) (hk : (id, k') ∈ k.inner)
      (hknown : (id.toInt, .struct) ∈ k.known) (inside : Rearranged k' v w) :
      Rearranged k (rawBytes fs ++ (writeHead .struct id.toUInt16.toNat ++ (v ++ behind)))
        (rawBytes fs ++ (writeHead .struct id.toUInt16.toNat ++ (w ++ behind)))
  | inItem {k k' : RecordKind} {id : Int16} {fs : List RawField} {element : WireType} {n : Nat}
      {us : List Bytes} {v w behind : Bytes} (front : ∀ f ∈ fs, k.Readable f)
      (hk : (id, k') ∈ k.inner) (hknown : (id.toInt, .list) ∈ k.known) (hlimit : n < listLimit)
      (items : ∀ u ∈ us, ∃ x, k'.read.run u = .ok (x, [])) (hn : us.length < n)
      (inside : Rearranged k' v w) :
      Rearranged k
        (rawBytes fs ++ (writeHead .list id.toUInt16.toNat ++
          (itemsHead element n ++ (us.flatten ++ v) ++ behind)))
        (rawBytes fs ++ (writeHead .list id.toUInt16.toNat ++
          (itemsHead element n ++ (us.flatten ++ w) ++ behind)))
  | trans {k : RecordKind} {u v w : Bytes} (first : Rearranged k u v) (second : Rearranged k v w) :
      Rearranged k u w

/-- Where a field may have either value, a record may have either field. -/
theorem alike_read_of_step {k : RecordKind} {fs : List RawField} (hfs : ∀ f ∈ fs, k.Readable f)
    {id : Int16} {type : WireType} (htype : type ≠ .stop) {v w : Bytes}
    (h : ∀ d, Alike (k.step d id.toInt type) v w) (behind : Bytes) :
    Alike k.read (rawBytes fs ++ (writeHead type id.toUInt16.toNat ++ (v ++ behind)))
      (rawBytes fs ++ (writeHead type id.toUInt16.toNat ++ (w ++ behind))) := by
  obtain ⟨d, hloop, -⟩ := run_fields_written hfs k.start
  rw [k.read_eq]
  refine Alike.bind (fun rest => ?_) _
  simp only [List.append_assoc, hloop, run_fields_cons htype]
  exact (h d).bind _ (behind ++ rest)

/-- **The order of fields makes no difference**, at any depth.  The induction is on the place where
the fields are rearranged. -/
theorem alike_of_rearranged {k : RecordKind} {v w : Bytes} (h : k.Rearranged v w) :
    Alike k.read v w := by
  induction h with
  | here before after same =>
      obtain ⟨o, -, ho⟩ := exists_closing before
      exact (ho _ before fun _ _ => rfl).alike (ho _ after same)
  | @inRecord k k' id fs v w behind front hk hknown inside ih =>
      obtain ⟨put, hstep⟩ := exists_step_record hk hknown
      refine alike_read_of_step front (by decide) (fun d => ?_) behind
      rw [hstep d]
      exact ih.bind _
  | @inItem k k' id fs element n us v w behind front hk hknown hlimit items hn inside ih =>
      obtain ⟨put, hstep⟩ := exists_step_records hk hknown
      have hus : ∀ u ∈ us, ∃ x, Gives k'.read u (.ok x) := by
        intro u hu
        obtain ⟨x, hx⟩ := items u hu
        exact ⟨x, k'.steady_read.gives hx⟩
      refine alike_read_of_step front (by decide) (fun d => ?_) behind
      rw [hstep d]
      exact (alike_listOf ih hus hn hlimit element).bind _
  | trans first second ih ih' => exact fun rest => (ih rest).trans (ih' rest)

end RecordKind

/-- **The order of fields makes no difference.**  What comes of a record whose fields can be read
is the record or the lack of a field, and only the last field of each key that means something
decides which; so fields may stand in any order in which those of one key stand as they did.  The
same goes for the records within a batch, at any depth. -/
theorem read_of_rearranged :
    (∀ (k : RecordKind) (fs : List RawField), (∀ f ∈ fs, k.Readable f) →
      ∃ o, Closing o ∧ Gives k.read (recordBytes fs) o ∧
        (∀ gs, (∀ f ∈ gs, k.Readable f) → k.SameFields fs gs →
          Gives k.read (recordBytes gs) o) ∧
        ∀ gs, SameOrder RawField.key fs gs →
          k.Rearranged (recordBytes fs) (recordBytes gs) ∧ Gives k.read (recordBytes gs) o) ∧
    (∀ (k : RecordKind) (v w : Bytes), k.Rearranged v w →
      ∀ rest, k.read.run (v ++ rest) = k.read.run (w ++ rest)) ∧
    ∀ v w, RecordKind.batch.Rearranged v w → ∀ rest, decode (v ++ rest) = decode (w ++ rest) := by
  refine ⟨fun k fs hfs => ?_, fun k v w h => RecordKind.alike_of_rearranged h, fun v w h rest => ?_⟩
  · obtain ⟨o, ho, hgives⟩ := RecordKind.exists_closing hfs
    refine ⟨o, ho, hgives fs hfs fun _ _ => rfl, hgives, fun gs horder => ?_⟩
    have hgs : ∀ f ∈ gs, k.Readable f := fun f hf => hfs f (horder.perm.mem_iff.2 hf)
    have hsame : k.SameFields fs gs := fun key _ => horder.sameLast key
    exact ⟨.here hfs hgs hsame, hgives gs hgs hsame⟩
  · have hread : readBatch.run (v ++ rest) = readBatch.run (w ++ rest) :=
      RecordKind.alike_of_rearranged h rest
    rw [decode, decode, hread]

/-- The fields of a tag, with its type in front of its key and again behind it. -/
def retypedTag : List RawField :=
  [⟨2, .i32, writeInt32 0⟩, ⟨1, .string, writeText "k"⟩, ⟨2, .i32, writeInt32 3⟩]

/-- The same fields, the key in front. -/
def keyedTag : List RawField :=
  [⟨1, .string, writeText "k"⟩, ⟨2, .i32, writeInt32 0⟩, ⟨2, .i32, writeInt32 3⟩]

/-- A batch without spans, whose process has one tag. -/
def taggedBatch (tag : Bytes) : Bytes :=
  rawBytes [] ++ (writeHead .struct 1 ++
    (rawBytes [⟨1, .string, writeText "svc"⟩] ++
      (writeHead .list 2 ++ (itemsHead .struct 1 ++ ([].flatten ++ tag) ++ stop)) ++
      (writeHead .list 2 ++ (itemsHead .struct 0 ++ stop))))

theorem readable_retypedTag : ∀ f ∈ retypedTag, RecordKind.tag.Readable f := by
  simp only [retypedTag, List.forall_mem_cons]
  exact ⟨⟨_, rfl⟩, ⟨_, rfl⟩, ⟨_, rfl⟩, by simp⟩

theorem sameOrder_retypedTag : SameOrder RawField.key retypedTag keyedTag := by
  have hkey : RawField.key ⟨2, .i32, writeInt32 0⟩ ≠ RawField.key ⟨1, .string, writeText "k"⟩ := by
    simp [RawField.key]
  exact sameOrder_swap hkey [] [⟨2, .i32, writeInt32 3⟩]

/-- The first of two types may be left out. -/
theorem sameFields_retypedTag : RecordKind.tag.SameFields retypedTag retypedTag.tail := by
  have hlast : (⟨2, .i32, writeInt32 3⟩ : RawField) ∈ retypedTag.tail := by simp [retypedTag]
  have hkey : RawField.key ⟨2, .i32, writeInt32 3⟩ = RawField.key ⟨2, .i32, writeInt32 0⟩ := rfl
  intro key _
  exact sameLast_drop hlast hkey [] key

theorem read_of_rearranged_retypedTag :
    (∀ f ∈ retypedTag, RecordKind.tag.Readable f) ∧
    SameOrder RawField.key retypedTag keyedTag ∧
    RecordKind.tag.SameFields retypedTag retypedTag.tail ∧
    (∃ o, Closing o ∧ Gives readTag (recordBytes retypedTag) o ∧
      Gives readTag (recordBytes keyedTag) o ∧ Gives readTag (recordBytes retypedTag.tail) o) ∧
    RecordKind.batch.Rearranged (taggedBatch (recordBytes retypedTag))
      (taggedBatch (recordBytes keyedTag)) ∧
    decode (taggedBatch (recordBytes retypedTag) ++ []) =
      decode (taggedBatch (recordBytes keyedTag) ++ []) ∧
    decode (taggedBatch (recordBytes keyedTag)) =
      .ok ⟨⟨"svc", some [⟨"k", 3, none, none, none, none, none⟩]⟩, [], none⟩ := by
  obtain ⟨hread, -, hdecode⟩ := read_of_rearranged
  obtain ⟨o, ho, hfirst, hlast, horder⟩ := hread .tag retypedTag readable_retypedTag
  obtain ⟨htag, hsecond⟩ := horder keyedTag sameOrder_retypedTag
  have hthird := hlast retypedTag.tail (List.forall_mem_cons.1 readable_retypedTag).2
    sameFields_retypedTag
  have hprocess := @RecordKind.Rearranged.inItem .process .tag 2 [⟨1, .string, writeText "svc"⟩]
    .struct 1 [] _ _ stop (by simpa using ⟨_, rfl⟩) (by decide) (by decide) (by decide) (by simp)
    (by decide) htag
  have hbatch := @RecordKind.Rearranged.inRecord .batch .process 1 [] _ _
    (writeHead .list 2 ++ (itemsHead .struct 0 ++ stop)) (by simp) (by decide) (by decide) hprocess
  exact ⟨readable_retypedTag, sameOrder_retypedTag, sameFields_retypedTag,
    ⟨o, ho, hfirst, hsecond, hthird⟩, hbatch, hdecode _ _ hbatch [], rfl⟩

end SpanIntake.Thrift

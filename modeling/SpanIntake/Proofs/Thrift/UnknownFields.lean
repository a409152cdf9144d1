/-
**Fields without a meaning.**

Somewhere in the bytes of a batch — between any two fields of any of its records — stands one more
field, with an id and a type that mean nothing to the record.  Readers pass over it, so that the
batch comes out as it was; but byte strings share a type with texts and are passed over as texts,
so that a field with bytes in it that are no UTF-8 makes the whole batch unreadable.

Main definitions:

* `Thrift.Inserted` — the fields of a record with one more somewhere in them, or in a record within.

Main results:

* `Thrift.gives_of_inserted` — what comes of the record is what comes of passing over the field;
* `Thrift.decode_inserted` — **the batch is read as before exactly if the field's byte strings are
  texts**, and otherwise bad text is found.
-/

import SpanIntake.Proofs.Thrift.Passing
import SpanIntake.Proofs.Thrift.RecordKind

set_option relaxedAutoImplicit false
set_option autoImplicit false

namespace SpanIntake.Thrift

/-! ### One more field -/

/-- The fields of a record of a kind, before and after the field `x` is put in: between two fields
of the record itself, in the record that a field holds, or in a record of the list that a field
holds.  To the record that it is put in, its id and type mean nothing. -/
inductive Inserted (x : Field) : RecordKind → List Field → List Field → Prop
  | here {k : RecordKind} {fs gs : List Field} (unknown : (x.1.toInt, x.2.type) ∉ k.known) :
      Inserted x k (fs ++ gs) (fs ++ x :: gs)
  | inRecord {k k' : RecordKind} {id : Int16} {fs gs hs hs' : List Field}
      (hk : (id, k') ∈ k.inner) (inside : Inserted x k' hs hs') :
      Inserted x k (fs ++ (id, .struct hs) :: gs) (fs ++ (id, .struct hs') :: gs)
  | inItem {k k' : RecordKind} {id : Int16} {fs gs hs hs' : List Field} {vs ws : List Value}
      (hk : (id, k') ∈ k.inner) (inside : Inserted x k' hs hs') :
      Inserted x k (fs ++ (id, .list .struct (vs ++ .struct hs :: ws)) :: gs)
        (fs ++ (id, .list .struct (vs ++ .struct hs' :: ws)) :: gs)

/-! ### Reading with one more field -/

variable {α σ : Type}

theorem Gives.map_const {β : Type} {r : Reader α} {bs : Bytes} {o : Except Error Unit} {x : α}
    (h : Gives r bs (o.map fun _ => x)) (f : α → β) :
    Gives (r >>= fun x => Pure.pure (f x)) bs (o.map fun _ => f x) := by
  cases o with
  | error e => exact h.map f
  | ok _ => exact h.map f

/-- In the middle of fields that are read without an error stands one that leads from state to
state, or fails. -/
theorem FieldsGive.insert {step : σ → Int → WireType → Reader σ} {fs gs : List Field} {f : Field}
    {s t t' u : σ} {o : Except Error Unit} (hfs : FieldsGive step fs s (.ok t))
    (hf : Gives (step t f.1.toInt f.2.type) f.2.bytes (o.map fun _ => t'))
    (hgs : FieldsGive step gs t' (.ok u)) :
    FieldsGive step (fs ++ f :: gs) s (o.map fun _ => u) := by
  cases o with
  | error e => exact hfs.append (.error hf)
  | ok _ => exact hfs.append (.cons hf hgs)

/-- Among items that are read back stands one that is read as an item of the list, or fails. -/
theorem gives_many_insert {item : Reader α} {value : α → Value} {as bs : List α} {a : α}
    {v : Value} {o : Except Error Unit} (has : ∀ x ∈ as, Gives item (value x).bytes (.ok x))
    (hv : Gives item v.bytes (o.map fun _ => a))
    (hbs : ∀ x ∈ bs, Gives item (value x).bytes (.ok x)) :
    Gives (many item (as.map value ++ v :: bs.map value).length)
      (itemsBytes (as.map value ++ v :: bs.map value)) (o.map fun _ => as ++ a :: bs) := by
  induction as with
  | nil =>
      have hmore := (gives_many hbs).map fun xs => a :: xs
      rw [List.map_nil, List.nil_append, List.length_cons, List.length_map]
      cases o with
      | error e => exact Gives.bind_error hv _ _
      | ok _ => exact Gives.bind_ok hv hmore
  | cons x as ih =>
      have hmore := (ih fun y hy => has y (List.mem_cons_of_mem _ hy)).map fun xs => x :: xs
      cases o with
      | error e => exact Gives.bind_ok (has x List.mem_cons_self) hmore
      | ok _ => exact Gives.bind_ok (has x List.mem_cons_self) hmore

theorem gives_listOf_insert {item : Reader α} {value : α → Value} {as bs : List α} {a : α}
    {v : Value} {o : Except Error Unit} (hlength : (as ++ a :: bs).length < listLimit)
    (hread : ∀ x ∈ as ++ a :: bs, Gives item (value x).bytes (.ok x))
    (hv : Gives item v.bytes (o.map fun _ => a)) :
    Gives (listOf item) (Value.list .struct (as.map value ++ v :: bs.map value)).bytes
      (o.map fun _ => as ++ a :: bs) := by
  have hlength' : (as.map value ++ v :: bs.map value).length < listLimit := by
    simpa using hlength
  refine gives_listOf_of_many hlength' (gives_many_insert ?_ hv ?_) .struct
  · exact fun x hx => hread x (List.mem_append_left _ hx)
  · exact fun x hx => hread x (List.mem_append_right _ (List.mem_cons_of_mem _ hx))

namespace RecordKind

/-- A record is taken out of what its field loop gives. -/
theorem gives_read (k : RecordKind) {fs : List Field} {d : k.Draft} {x : k.Record}
    {o : Except Error Unit} (h : FieldsGive k.step fs k.start (o.map fun _ => d))
    (hd : Gives (k.finish d) [] (.ok x)) :
    Gives k.read (Value.struct fs).bytes (o.map fun _ => x) := by
  rw [k.read_eq]
  cases o with
  | error e =>
      have hfields := Gives.bind_error h.gives k.finish []
      rw [List.append_nil] at hfields
      exact hfields
  | ok _ => exact h.gives_record hd

theorem gives_read_fields (k : RecordKind) {x : k.Record} (hx : k.Encodable x) :
    Gives k.read (Value.struct (k.fields x)).bytes (.ok x) := by
  obtain ⟨d, hfields, hd⟩ := k.fieldsGive_fields hx
  exact k.gives_read (o := .ok ()) hfields hd

end RecordKind

/-- What comes of passing over a value and going on from a state. -/
theorem Gives.skip_then {v : Value} (hv : v.WellFormed) (s : σ) :
    Gives (skip maxDepth v.type >>= fun _ => Pure.pure s) v.bytes
      ((v.pass maxDepth).map fun _ => s) :=
  (gives_skip maxDepth hv).map fun _ => s

/-- In place of a value that a field holds stands another one, which is read as the same or fails. -/
theorem gives_read_replaced {k : RecordKind} {r : k.Record} (hr : k.Encodable r) {id : Int16}
    {fs gs : List Field} {v v' : Value} {y : α} {put : k.Draft → α → k.Draft} {inner : Reader α}
    {o : Except Error Unit} (heq : fs ++ (id, v) :: gs = k.fields r) (htype : v'.type = v.type)
    (hstep : ∀ d, k.step d id.toInt v.type = inner >>= fun y => pure (put d y))
    (hv : Gives inner v.bytes (.ok y)) (hv' : Gives inner v'.bytes (o.map fun _ => y)) :
    Gives k.read (Value.struct (fs ++ (id, v') :: gs)).bytes (o.map fun _ => r) := by
  obtain ⟨d, hfields, hd⟩ := k.fieldsGive_fields hr
  rw [← heq] at hfields
  obtain ⟨t, hfs, hrest⟩ := hfields.split
  cases hrest with
  | @cons _ _ _ t' _ first hgs =>
      -- the state behind the field is known, since the value in it was read back
      obtain rfl : t' = put t y := by
        have hput := hv.map (put t)
        rw [← hstep t] at hput
        exact Except.ok.inj (first.eq hput)
      have hnew := hv'.map_const (put t)
      rw [← hstep t, ← htype] at hnew
      exact k.gives_read (hfs.insert hnew hgs) hd

/-- **What comes of a record with one more field is what comes of passing over the field**: the
record as it was, or the error. -/
theorem gives_of_inserted {x : Field} (hx : x.2.WellFormed) {k : RecordKind}
    {fs gs : List Field} (h : Inserted x k fs gs) :
    ∀ r : k.Record, k.Encodable r → fs = k.fields r →
      Gives k.read (Value.struct gs).bytes ((x.2.pass maxDepth).map fun _ => r) := by
  induction h with
  | @here k fs gs unknown =>
      intro r hr heq
      obtain ⟨d, hfields, hd⟩ := k.fieldsGive_fields hr
      rw [← heq] at hfields
      obtain ⟨t, hfs, hgs⟩ := hfields.split
      have hstep := k.step_of_not_mem_known t unknown ▸ Gives.skip_then hx t
      exact k.gives_read (hfs.insert hstep hgs) hd
  | @inRecord k k' id fs gs hs hs' hk inside ih =>
      intro r hr heq
      have hmem : (id, Value.struct hs) ∈ k.fields r := by simp [← heq]
      have hholds := RecordKind.holds_of_mem_fields hr hk hmem
      -- the field holds one record, not a list of them
      generalize hv : Value.struct hs = v at hholds
      cases hholds with
      | records _ _ _ => cases hv
      | @record y hy put hstep =>
          cases hv
          exact gives_read_replaced hr heq rfl hstep (k'.gives_read_fields hy) (ih y hy rfl)
  | @inItem k k' id fs gs hs hs' vs ws hk inside ih =>
      intro r hr heq
      have hmem : (id, Value.list .struct (vs ++ .struct hs :: ws)) ∈ k.fields r := by
        simp [← heq]
      have hholds := RecordKind.holds_of_mem_fields hr hk hmem
      generalize hv : Value.list .struct (vs ++ .struct hs :: ws) = v at hholds
      cases hholds with
      | record _ _ _ => cases hv
      | @records ys hys put hstep =>
          injection hv with _ hitems
          obtain ⟨as, bs, rfl, rfl, hbs⟩ := List.map_eq_append_iff.1 hitems.symm
          obtain ⟨a, bs, rfl, ha, rfl⟩ := List.map_eq_cons_iff.1 hbs
          injection ha with ha
          have hread : ∀ y ∈ as ++ a :: bs,
              Gives k'.read (Value.struct (k'.fields y)).bytes (.ok y) :=
            fun y hy => k'.gives_read_fields (hys.2 y hy)
          have hold := gives_listOf hys.1 hread .struct
          rw [List.map_append, List.map_cons, ha] at hold
          exact gives_read_replaced hr heq rfl hstep hold
            (gives_listOf_insert hys.1 hread (ih a (hys.2 a (by simp)) ha.symm))

/-- Where a field is put into the bytes of a batch, decoding comes to what passing over it does. -/
theorem decode_of_inserted {b : Batch} (hb : b.Encodable) {x : Field} (hx : x.2.WellFormed)
    {fs : List Field} (h : Inserted x .batch (batchFields b) fs) (rest : Bytes) :
    decode ((Value.struct fs).bytes ++ rest) = (x.2.pass maxDepth).map fun _ => b := by
  have hread : Gives readBatch (Value.struct fs).bytes ((x.2.pass maxDepth).map fun _ => b) :=
    gives_of_inserted hx h b hb rfl
  rw [decode, hread rest]
  cases x.2.pass maxDepth <;> rfl

/-- **The batch is read as before exactly if the byte strings in the field are texts**: where they
are not, bad text is found and there is no batch. -/
theorem decode_inserted {b : Batch} (hb : b.Encodable) {x : Field} (hx : x.2.WellFormed)
    (hdepth : x.2.depth < maxDepth) {fs : List Field} (h : Inserted x .batch (batchFields b) fs)
    (rest : Bytes) :
    encode b = .ok (Value.struct (batchFields b)).bytes ∧
      (decode ((Value.struct fs).bytes ++ rest) = .ok b ↔ x.2.Textual) ∧
      (¬ x.2.Textual →
        ∃ fault, decode ((Value.struct fs).bytes ++ rest) = .error (.badText fault)) := by
  have hdecode := decode_of_inserted hb hx h rest
  have hbad : ¬ x.2.Textual →
      ∃ fault, decode ((Value.struct fs).bytes ++ rest) = .error (.badText fault) := by
    intro htextual
    obtain ⟨fault, hpass⟩ := Value.pass_of_not_textual hdepth htextual
    exact ⟨fault, by rw [hdecode, hpass]; rfl⟩
  refine ⟨(bytes_batchFields b).symm ▸ encode_eq_ok hb, ⟨fun hok => ?_, fun htextual => ?_⟩, hbad⟩
  · by_cases htextual : x.2.Textual
    · exact htextual
    · obtain ⟨fault, herror⟩ := hbad htextual
      rw [herror] at hok
      cases hok
  · rw [hdecode, (Value.pass_eq_ok_iff maxDepth x.2).2 ⟨hdepth, htextual⟩]
    rfl

/-! ### A field that is passed over and one that is not -/

/-- A map from a number to a list of texts, under an id that no record uses. -/
def mapField : Field := (-5, .map .i32 .list [(.i32 1, .list .string [textValue "ä"])])

/-- The fields of `Thrift.mixedBatch` with the map in the tag of its span. -/
def mixedBatchWithMap : List Field :=
  [(1, .struct (processFields mixedBatch.process)),
   (2, .list .struct [.struct
    [(1, .i64 (-1)), (2, .i64 0), (3, .i64 7), (4, .i64 0), (5, textValue "op"),
     (6, recordsValue spanRefFields [⟨9, 1, 2, 3⟩]), (7, .i32 1), (8, .i64 5), (9, .i64 6),
     (10, .list .struct [.struct
      [(1, textValue "k"), (2, .i32 77), mapField, (4, .double ⟨0x7FF8000000000001⟩),
       (7, .string [255])]])]]),
   (3, .i64 3)]

theorem inserted_mapField : Inserted mapField .batch (batchFields mixedBatch) mixedBatchWithMap := by
  have htag : Inserted mapField .tag (tagFields mixedTag)
      [(1, textValue "k"), (2, .i32 77), mapField, (4, .double ⟨0x7FF8000000000001⟩),
       (7, .string [255])] :=
    @Inserted.here mapField .tag [(1, textValue "k"), (2, .i32 77)] _ (by decide)
  have hspan := @Inserted.inItem mapField .span .tag 10
    [(1, .i64 (-1)), (2, .i64 0), (3, .i64 7), (4, .i64 0), (5, textValue "op"),
     (6, recordsValue spanRefFields [⟨9, 1, 2, 3⟩]), (7, .i32 1), (8, .i64 5), (9, .i64 6)]
    [] _ _ [] [] (by decide) htag
  exact @Inserted.inItem mapField .batch .span 2 [(1, .struct (processFields mixedBatch.process))]
    [(3, .i64 3)] _ _ [] [] (by decide) hspan

/-- A value without inner ones has no depth. -/
theorem Value.depth_lt_one {v : Value} (h : v.children = []) : v.depth < 1 := by
  rw [Value.depth_lt_succ_iff]
  intro c hc
  rw [h] at hc
  cases hc

theorem mem_children_mapField {c : Value} (h : c ∈ mapField.2.children) :
    c = .i32 1 ∨ c = .list .string [textValue "ä"] := by
  simpa [mapField, Value.children] using h

theorem wellFormed_mapField : mapField.2.WellFormed := by
  have htext : (textValue "ä").WellFormed :=
    .of_children_eq_nil (show (Utf8.encode "ä").length < listLimit by decide) rfl
  have hlist : (Value.list .string [textValue "ä"]).WellFormed := by
    refine .intro ⟨by decide, by simp [textValue, Value.type]⟩ fun c hc => ?_
    exact List.mem_singleton.1 hc ▸ htext
  refine .intro ⟨by decide, by simp [Value.type]⟩ fun c hc => ?_
  rcases mem_children_mapField hc with rfl | rfl
  · exact .of_children_eq_nil trivial rfl
  · exact hlist

theorem depth_mapField_lt : mapField.2.depth < maxDepth := by
  have hlist : (Value.list .string [textValue "ä"]).depth < 2 := by
    rw [Value.depth_lt_succ_iff]
    exact fun c hc => List.mem_singleton.1 hc ▸ Value.depth_lt_one rfl
  have hmap : mapField.2.depth < 3 := by
    rw [Value.depth_lt_succ_iff]
    intro c hc
    rcases mem_children_mapField hc with rfl | rfl
    · exact Nat.lt_succ_of_lt (Value.depth_lt_one rfl)
    · exact hlist
  exact Nat.lt_trans hmap (by decide)

theorem decode_inserted_mapField : mixedBatch.Encodable ∧ mapField.2.WellFormed ∧
    mapField.2.depth < maxDepth ∧
    Inserted mapField .batch (batchFields mixedBatch) mixedBatchWithMap ∧
    encode mixedBatch = .ok (Value.struct (batchFields mixedBatch)).bytes ∧
    (decode ((Value.struct mixedBatchWithMap).bytes ++ []) = .ok mixedBatch ↔ mapField.2.Textual) ∧
    (¬ mapField.2.Textual → ∃ fault,
      decode ((Value.struct mixedBatchWithMap).bytes ++ []) = .error (.badText fault)) :=
  ⟨encodable_mixedBatch, wellFormed_mapField, depth_mapField_lt, inserted_mapField,
    decode_inserted encodable_mixedBatch wellFormed_mapField depth_mapField_lt inserted_mapField []⟩

/-- A field of a batch whose value is the one byte 255, which is no text. -/
def byteField : Field := (9, .string [255])

/-- **A byte string is not always passed over.** -/
theorem decode_byteField : mixedBatch.Encodable ∧ byteField.2.WellFormed ∧
    byteField.2.depth < maxDepth ∧
    Inserted byteField .batch (batchFields mixedBatch) (byteField :: batchFields mixedBatch) ∧
    decode ((Value.struct (byteField :: batchFields mixedBatch)).bytes ++ []) ≠ .ok mixedBatch := by
  have hwell : byteField.2.WellFormed :=
    .of_children_eq_nil (show [255].length < listLimit by decide) rfl
  have hinserted : Inserted byteField .batch (batchFields mixedBatch)
      (byteField :: batchFields mixedBatch) :=
    @Inserted.here byteField .batch [] _ (by decide)
  have hpass : byteField.2.pass maxDepth = .error (.badText (.invalid 1 0)) := rfl
  have hdepth : byteField.2.depth < 1 := Value.depth_lt_one rfl
  refine ⟨encodable_mixedBatch, hwell, Nat.lt_trans hdepth (by decide), hinserted, ?_⟩
  rw [decode_of_inserted encodable_mixedBatch hwell hinserted, hpass]
  simp [Except.map]

end SpanIntake.Thrift

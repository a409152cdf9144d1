/-
**Bytes that end too early.**

A reader looks at its bytes from the front.  More bytes behind them change nothing in what it
finds: a value comes out as it did, and the rest is longer by the bytes added; a fault that was
found is found again.  Only one kind of fault may be mended, that the bytes ended too early — inside
a value of fixed size, or inside a byte string that is longer than what was left.  Turned round, a
batch that is cut off anywhere fails with a fault of that kind, whatever the cut falls into.

Main definitions:

* `Thrift.Error.IsCut` — the bytes ended too early;
* `Thrift.Prolongs` — how an outcome of reading and the outcome with more bytes agree;
* `Thrift.Steady` — a reader whose outcomes agree so on all bytes.

Main results:

* `Thrift.Follows.bind` — reading one thing after another;
* `Thrift.follows_fieldsUpTo` — the field loop, whose bound on the number of fields may grow;
* `Thrift.steady_skip`, `Thrift.RecordKind.steady_read` — passing over values and reading records is
  steady;
* `Thrift.isCut_of_truncated` — **a batch that is cut off is never read**, and reading a batch does
  not look behind it.
-/

import SpanIntake.Proofs.Thrift.Slot

set_option relaxedAutoImplicit false
set_option autoImplicit false

namespace SpanIntake.Thrift

variable {α β σ : Type}

/-! ### Outcomes and more bytes -/

/-- The bytes ended too early. -/
inductive Error.IsCut : Error → Prop
  | endOfFile : IsCut .endOfFile
  | byteLengthExceeds {length left : Nat} (h : left < length) :
      IsCut (.byteLengthExceeds length left)

/-- An outcome of reading, and the outcome with the bytes `more` behind all others. -/
inductive Prolongs (more : Bytes) :
    Except Error (α × Bytes) → Except Error (α × Bytes) → Prop
  | ok (x : α) (rest : Bytes) : Prolongs more (.ok (x, rest)) (.ok (x, rest ++ more))
  | error (e : Error) : Prolongs more (.error e) (.error e)
  | cut {e : Error} (h : e.IsCut) (o : Except Error (α × Bytes)) : Prolongs more (.error e) o

/-- With more bytes the second reader does what the first one does without them. -/
def Follows (r r' : Reader α) : Prop := ∀ bs more, Prolongs more (r.run bs) (r'.run (bs ++ more))

/-- A reader does with more bytes what it does without them. -/
def Steady (r : Reader α) : Prop := Follows r r

theorem Steady.pure (x : α) : Steady (pure x : Reader α) := fun bs _ => .ok x bs

theorem Steady.throw (e : Error) : Steady (throw e : Reader α) := fun _ _ => .error e

/-- Reading one thing after another. -/
theorem Follows.bind {r r' : Reader α} {f f' : α → Reader β} (hr : Follows r r')
    (hf : ∀ x, Follows (f x) (f' x)) : Follows (r >>= f) (r' >>= f') := by
  intro bs more
  rw [StateT.run_bind, StateT.run_bind]
  generalize hrun : r.run bs = o
  generalize hrun' : r'.run (bs ++ more) = o'
  have hprolongs : Prolongs more o o' := by
    rw [← hrun, ← hrun']
    exact hr bs more
  cases hprolongs with
  | ok x rest => exact hf x rest more
  | error e => exact .error e
  | cut h _ => exact .cut h _

theorem Steady.bind {r : Reader α} {f : α → Reader β} (hr : Steady r) (hf : ∀ x, Steady (f x)) :
    Steady (r >>= f) :=
  Follows.bind hr hf

/-- A reader whose value is turned into another one. -/
theorem Steady.map {r : Reader α} (hr : Steady r) (f : α → β) :
    Steady (r >>= fun x => Pure.pure (f x)) :=
  hr.bind fun x => .pure (f x)

theorem Steady.discard {r : Reader α} (hr : Steady r) : Steady (discard r) := hr.map fun _ => ()

/-! ### Numbers, byte strings and texts -/

theorem steady_byte : Steady byte := by
  intro bs more
  cases bs with
  | nil => exact .cut .endOfFile _
  | cons b bs => exact .ok b bs

theorem steady_word (k : Nat) : Steady (word k) := by
  intro bs more
  cases hsplit : Bytes.split? k bs with
  | none =>
      have hrun : (word k).run bs = .error .endOfFile := by simp [word, hsplit]; rfl
      rw [hrun]
      exact .cut .endOfFile _
  | some p =>
      obtain ⟨w, rest⟩ := p
      have hrun : (word k).run bs = .ok (Bytes.ofBigEndian w, rest) := by simp [word, hsplit]; rfl
      have hmore : (word k).run (bs ++ more) = .ok (Bytes.ofBigEndian w, rest ++ more) := by
        simp [word, Bytes.split?_append_of_eq_some hsplit more]; rfl
      rw [hrun, hmore]
      exact .ok _ rest

theorem steady_int16 : Steady int16 := (steady_word 2).map _

theorem steady_int32 : Steady int32 := (steady_word 4).map _

theorem steady_int64 : Steady int64 := (steady_word 8).map _

theorem steady_double : Steady double := (steady_word 8).map _

theorem steady_bool : Steady bool := steady_byte.map _

/-- The length of a byte string is held against the bytes left, and those may become more. -/
theorem steady_bytes : Steady bytes := by
  refine steady_int32.bind fun size => ?_
  dsimp only
  split
  · exact .throw _
  · generalize size.toInt.toNat = k
    intro bs more
    simp only [StateT.run_bind, StateT.run_get, pure_bind]
    cases hsplit : Bytes.split? k bs with
    | none => exact .cut (.byteLengthExceeds (Bytes.split?_eq_none_iff.1 hsplit)) _
    | some p =>
        obtain ⟨w, rest⟩ := p
        rw [Bytes.split?_append_of_eq_some hsplit more]
        exact .ok w rest

theorem steady_text : Steady text := by
  refine steady_bytes.bind fun bs => ?_
  cases Utf8.decode bs with
  | ok s => exact .pure s
  | error fault => exact .throw _

/-! ### Heads -/

theorem steady_wireType : Steady wireType := by
  refine steady_byte.bind fun b => ?_
  dsimp only
  cases WireType.ofCode? b.toNat with
  | some type => exact .pure type
  | none => exact .throw _

theorem steady_fieldHead : Steady fieldHead := by
  refine steady_wireType.bind fun type => ?_
  split
  · exact .pure none
  · exact steady_int16.map _

theorem steady_listHead : Steady listHead :=
  steady_wireType.bind fun _ => steady_int32.map _

/-! ### Loops -/

/-- The bound on the number of fields may grow with the bytes: where it is reached, the bytes ended
too early. -/
theorem follows_fieldsUpTo {step : σ → Int → WireType → Reader σ}
    (hstep : ∀ s id type, Steady (step s id type)) {n m : Nat} (h : n ≤ m) (s : σ) :
    Follows (fieldsUpTo step n s) (fieldsUpTo step m s) := by
  induction n generalizing m s with
  | zero => exact fun _ _ => .cut .endOfFile _
  | succ n ih =>
      obtain ⟨m, rfl⟩ : ∃ k, m = k + 1 := ⟨m - 1, by omega⟩
      refine Follows.bind steady_fieldHead fun head => ?_
      cases head with
      | none => exact Steady.pure s
      | some head =>
          exact Follows.bind (hstep s head.2 head.1) fun t => ih (Nat.le_of_succ_le_succ h) t

theorem steady_fields {step : σ → Int → WireType → Reader σ}
    (hstep : ∀ s id type, Steady (step s id type)) (start : σ) : Steady (fields step start) := by
  intro bs more
  have hle : bs.length ≤ (bs ++ more).length := by simp
  exact follows_fieldsUpTo hstep hle start bs more

theorem steady_many {item : Reader α} (h : Steady item) (n : Nat) : Steady (many item n) := by
  induction n with
  | zero => exact .pure []
  | succ n ih => exact h.bind fun x => ih.map _

theorem steady_listOf {item : Reader α} (h : Steady item) : Steady (listOf item) := by
  refine steady_listHead.bind fun head => ?_
  show Steady (if head.2 < 0 then throw (.negativeListSize head.2) else many item head.2.toNat)
  split
  · exact .throw _
  · exact steady_many h _

theorem steady_times {act : Reader Unit} (h : Steady act) (n : Nat) : Steady (times act n) := by
  induction n with
  | zero => exact .pure ()
  | succ n ih => exact h.bind fun _ => ih

/-- **Passing over a value is steady**, however deep values may be nested. -/
theorem steady_skip (depth : Nat) (type : WireType) : Steady (skip depth type) := by
  induction depth generalizing type with
  | zero => exact .throw _
  | succ depth ih =>
      cases type with
      | bool | i08 => exact steady_byte.discard
      | i16 | i32 | i64 | double => exact (steady_word _).discard
      | string => exact steady_text.discard
      | struct => exact steady_fields (fun _ _ type => ih type) ()
      | list | set => exact steady_listHead.bind fun head => steady_times (ih head.1) _
      | map =>
          refine steady_wireType.bind fun key => steady_wireType.bind fun value => ?_
          refine steady_int32.bind fun size => ?_
          exact steady_times ((ih key).bind fun _ => ih value) _
      | stop | void | utf8 | utf16 => exact .throw _

/-! ### Records -/

theorem steady_required (record field : String) (o : Option α) :
    Steady (required record field o) := by
  cases o with
  | none => exact .throw _
  | some x => exact .pure x

theorem RecordKind.steady_finish (k : RecordKind) (d : k.Draft) : Steady (k.finish d) := by
  cases k with
  | batch | log | tag =>
      exact (steady_required _ _ _).bind fun _ => (steady_required _ _ _).map _
  | process => exact (steady_required _ _ _).map _
  | spanRef =>
      refine (steady_required _ _ _).bind fun _ => (steady_required _ _ _).bind fun _ => ?_
      exact (steady_required _ _ _).bind fun _ => (steady_required _ _ _).map _
  | span =>
      refine (steady_required _ _ _).bind fun _ => (steady_required _ _ _).bind fun _ => ?_
      refine (steady_required _ _ _).bind fun _ => (steady_required _ _ _).bind fun _ => ?_
      refine (steady_required _ _ _).bind fun _ => (steady_required _ _ _).bind fun _ => ?_
      exact (steady_required _ _ _).bind fun _ => (steady_required _ _ _).map _

/-- Reading a record is steady, where reading its fields is. -/
theorem RecordKind.steady_read_of_slots {k : RecordKind} (h : ∀ s ∈ k.slots, Steady s.read) :
    Steady k.read := by
  rw [k.read_eq]
  refine (steady_fields (fun d id type => ?_) k.start).bind k.steady_finish
  rcases k.step_cases id type with ⟨s, hs, -, hstep⟩ | ⟨-, hstep⟩
  · rw [hstep]
    exact (h s hs).map (s.put d)
  · rw [hstep]
    exact (steady_skip maxDepth type).map fun _ => d

/-- **Reading any field is steady**, whatever its kind of record. -/
theorem readerLaw_steady : ReaderLaw fun _ r _ => Steady r where
  int32 := steady_int32
  int64 := steady_int64
  double := steady_double
  bool := steady_bool
  bytes := steady_bytes
  text := steady_text
  list := steady_listOf
  record _ h := RecordKind.steady_read_of_slots h

/-- **Reading a record is steady.** -/
theorem RecordKind.steady_read (k : RecordKind) : Steady k.read :=
  steady_read_of_slots (readerLaw_steady.slots k)

theorem steady_readBatch : Steady readBatch := RecordKind.batch.steady_read

/-! ### Batches that are cut off -/

theorem Steady.run_append {r : Reader α} (hr : Steady r) {bs rest : Bytes} {x : α}
    (h : r.run bs = .ok (x, rest)) (more : Bytes) : r.run (bs ++ more) = .ok (x, rest ++ more) := by
  have hprolongs := hr bs more
  rw [h] at hprolongs
  generalize r.run (bs ++ more) = o at hprolongs
  cases hprolongs
  rfl

/-- A reader that takes all its bytes takes them whatever follows. -/
theorem Steady.gives {r : Reader α} (hr : Steady r) {bs : Bytes} {x : α}
    (h : r.run bs = .ok (x, [])) : Gives r bs (.ok x) :=
  fun rest => hr.run_append h rest

/-- Where a reader takes all its bytes, it fails on every part of them in front: what it found there
would be found in the whole. -/
theorem Steady.isCut_of_prefix {r : Reader α} (hr : Steady r) {bs : Bytes} {x : α}
    (h : r.run bs = .ok (x, [])) {part : Bytes} (hpart : part <+: bs) (hne : part ≠ bs) :
    ∃ e, r.run part = .error e ∧ e.IsCut := by
  obtain ⟨more, rfl⟩ := hpart
  have hprolongs := hr part more
  rw [h] at hprolongs
  generalize hrun : r.run part = o at hprolongs
  generalize hwhole : Except.ok (x, []) = o' at hprolongs
  cases hprolongs with
  | ok y rest =>
      -- the rest of the whole is empty, so that nothing was cut off
      have hrest : [] = rest ++ more := (Prod.mk.inj (Except.ok.inj hwhole)).2
      obtain ⟨_, rfl⟩ := List.append_eq_nil_iff.1 hrest.symm
      exact absurd (List.append_nil part).symm hne
  | error e => cases hwhole
  | cut hcut _ => exact ⟨_, rfl, hcut⟩

theorem decode_eq_ok_iff {bs : Bytes} {b : Batch} :
    decode bs = .ok b ↔ ∃ rest, readBatch.run bs = .ok (b, rest) := by
  rw [decode]
  cases readBatch.run bs with
  | error e => simp [Except.map]
  | ok p => simp [Except.map, Prod.ext_iff]

theorem run_readBatch_writeBatch {b : Batch} (hb : b.Encodable) (rest : Bytes) :
    readBatch.run (writeBatch b ++ rest) = .ok (b, rest) := by
  rw [← bytes_batchFields]
  exact gives_readBatch hb rest

/-- **A batch that is cut off is never read**: there is an error, and it says that the bytes ended
too early.  And reading a batch does not look behind it: with more bytes the batch is the same. -/
theorem isCut_of_truncated :
    (∀ b : Batch, b.Encodable → ∃ bs, encode b = .ok bs ∧
      ∀ part, part <+: bs → part ≠ bs → ∃ e, decode part = .error e ∧ e.IsCut) ∧
    ∀ (bs : Bytes) (b : Batch), decode bs = .ok b → ∀ more, decode (bs ++ more) = .ok b := by
  constructor
  · intro b hb
    have hrun := run_readBatch_writeBatch hb []
    rw [List.append_nil] at hrun
    refine ⟨writeBatch b, encode_eq_ok hb, fun part hpart hne => ?_⟩
    obtain ⟨e, he, hcut⟩ := steady_readBatch.isCut_of_prefix hrun hpart hne
    exact ⟨e, by rw [decode, he]; rfl, hcut⟩
  · intro bs b h more
    obtain ⟨rest, hrun⟩ := decode_eq_ok_iff.1 h
    exact decode_eq_ok_iff.2 ⟨rest ++ more, steady_readBatch.run_append hrun more⟩

theorem isCut_of_truncated_mixedBatch : mixedBatch.Encodable ∧
    (∃ bs, encode mixedBatch = .ok bs ∧ bs.dropLast <+: bs ∧ bs.dropLast ≠ bs ∧
      ∃ e, decode bs.dropLast = .error e ∧ e.IsCut) ∧
    decode (writeBatch mixedBatch) = .ok mixedBatch ∧
    decode (writeBatch mixedBatch ++ [12, 0]) = .ok mixedBatch := by
  have hread : decode (writeBatch mixedBatch) = .ok mixedBatch := by
    have hrun := run_readBatch_writeBatch encodable_mixedBatch []
    rw [List.append_nil] at hrun
    exact decode_eq_ok_iff.2 ⟨[], hrun⟩
  obtain ⟨bs, hbs, hcut⟩ := isCut_of_truncated.1 mixedBatch encodable_mixedBatch
  have hne : bs.dropLast ≠ bs := by
    intro heq
    have hlength := congrArg List.length heq
    cases (encode_eq_ok encodable_mixedBatch).symm.trans hbs
    simp only [writeBatch, stop, List.length_dropLast, List.length_append,
      List.length_cons] at hlength
    omega
  have hpart := List.dropLast_prefix bs
  exact ⟨encodable_mixedBatch, ⟨bs, hbs, hpart, hne, hcut _ hpart hne⟩, hread,
    isCut_of_truncated.2 _ _ hread [12, 0]⟩

end SpanIntake.Thrift

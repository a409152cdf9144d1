/-
**What readers make of bytes.**

A reader takes a value off the front of the bytes, or fails.  Of most readers and most bytes one
can say what comes of them *whatever follows*: that is `Thrift.Gives`, and it is what makes laws of
readers compose.  Reading one thing and then another gives what the two give, on the one's bytes
followed by the other's; a loop over fields or items gives what its steps give one by one.

Main definitions:

* `Thrift.Gives` — what a reader makes of bytes, whatever follows them;
* `Thrift.FieldsGive` — what a field loop makes of fields, step by step.

Main results:

* `Thrift.Gives.bind` — reading one thing after another;
* `Thrift.gives_int32`, `Thrift.gives_int64`, `Thrift.gives_double`, `Thrift.gives_bytes` and their
  like — **a written value is read back**;
* `Thrift.FieldsGive.gives` — **a field loop gives what its steps give**;
* `Thrift.gives_listOf` — the same of a list of records.
-/

import SpanIntake.Proofs.Thrift.Value

set_option relaxedAutoImplicit false
set_option autoImplicit false

namespace SpanIntake.Thrift

variable {α β σ : Type}

/-! ### Readers -/

/-- Whatever follows the bytes, the reader takes exactly them off and gives a value, or fails with
an error. -/
def Gives (r : Reader α) (bs : Bytes) (o : Except Error α) : Prop :=
  ∀ rest, r.run (bs ++ rest) = o.map fun x => (x, rest)

theorem Gives.eq {r : Reader α} {bs : Bytes} {o o' : Except Error α} (h : Gives r bs o)
    (h' : Gives r bs o') : o = o' := by
  have hrun := (h []).symm.trans (h' [])
  cases o <;> cases o' <;> simp_all [Except.map]

theorem Gives.pure (x : α) : Gives (pure x : Reader α) [] (.ok x) := fun _ => rfl

theorem Gives.throw (e : Error) (bs : Bytes) : Gives (throw e : Reader α) bs (.error e) :=
  fun _ => rfl

/-- Reading one thing after another. -/
theorem Gives.bind {r : Reader α} {f : α → Reader β} {bs cs : Bytes} {o : Except Error α}
    {g : α → Except Error β} (hr : Gives r bs o) (hf : ∀ x, o = .ok x → Gives (f x) cs (g x)) :
    Gives (r >>= f) (bs ++ cs) (o >>= g) := by
  intro rest
  rw [StateT.run_bind, List.append_assoc, hr (cs ++ rest)]
  cases o with
  | error e => rfl
  | ok x => exact hf x rfl rest

theorem Gives.bind_ok {r : Reader α} {f : α → Reader β} {bs cs : Bytes} {x : α}
    {o : Except Error β} (hr : Gives r bs (.ok x)) (hf : Gives (f x) cs o) :
    Gives (r >>= f) (bs ++ cs) o :=
  Gives.bind hr (g := fun _ => o) fun y hy => by cases hy; exact hf

/-- Reading one byte and then what follows it. -/
theorem Gives.bind_cons {r : Reader α} {f : α → Reader β} {b : UInt8} {bs : Bytes} {x : α}
    {o : Except Error β} (hr : Gives r [b] (.ok x)) (hf : Gives (f x) bs o) :
    Gives (r >>= f) (b :: bs) o :=
  Gives.bind_ok hr hf

/-- Going on without reading. -/
theorem Gives.bind_nil {r : Reader α} {f : α → Reader β} {bs : Bytes} {x : α}
    {o : Except Error β} (hr : Gives r bs (.ok x)) (hf : Gives (f x) [] o) :
    Gives (r >>= f) bs o := by
  have h := Gives.bind_ok hr hf
  rw [List.append_nil] at h
  exact h

theorem Gives.map {r : Reader α} {bs : Bytes} {o : Except Error α} (hr : Gives r bs o)
    (f : α → β) : Gives (r >>= fun x => Pure.pure (f x)) bs (o.map f) := by
  have h := Gives.bind hr (g := fun x => .ok (f x)) fun x _ => Gives.pure (f x)
  rw [List.append_nil] at h
  exact h

/-- After an error it does not matter what would be read. -/
theorem Gives.bind_error {r : Reader α} {bs : Bytes} {e : Error} (hr : Gives r bs (.error e))
    (f : α → Reader β) (cs : Bytes) : Gives (r >>= f) (bs ++ cs) (.error e) := by
  intro rest
  rw [StateT.run_bind, List.append_assoc, hr (cs ++ rest)]
  rfl

/-- A reader whose value is dropped. -/
theorem Gives.discard {r : Reader α} {bs : Bytes} {o : Except Error α} (hr : Gives r bs o) :
    Gives (discard r) bs (o.map fun _ => ()) := by
  intro rest
  have hmap : (Functor.discard r).run (bs ++ rest)
      = (fun p : α × Bytes => ((), p.2)) <$> r.run (bs ++ rest) := StateT.run_map ..
  rw [hmap, hr rest]
  cases o <;> rfl

/-! ### Numbers -/

theorem gives_byte (b : UInt8) : Gives byte [b] (.ok b) := fun _ => rfl

theorem gives_word {k n : Nat} (h : n < Nat.pow 256 k) :
    Gives (word k) (Bytes.bigEndian k n) (.ok n) := by
  intro rest
  have hsplit : Bytes.split? k (Bytes.bigEndian k n ++ rest) = some (Bytes.bigEndian k n, rest) := by
    simpa using Bytes.split?_append (Bytes.bigEndian k n) rest
  have hvalue : Bytes.ofBigEndian (Bytes.bigEndian k n) = n := by
    rw [Bytes.ofBigEndian_bigEndian, Nat.mod_eq_of_lt h]
  have hrun : (word k).run (Bytes.bigEndian k n ++ rest) =
      .ok (Bytes.ofBigEndian (Bytes.bigEndian k n), rest) := by
    simp [word, hsplit]
    rfl
  rw [hrun, hvalue]
  rfl

/-- A word that stands for a value. -/
theorem gives_of_word {k n : Nat} (h : n < Nat.pow 256 k) {f : Nat → α} {x : α} (hf : f n = x) :
    Gives (word k >>= fun w => Pure.pure (f w)) (Bytes.bigEndian k n) (.ok x) :=
  hf ▸ (gives_word h).map f

theorem gives_int16 (n : Int16) : Gives int16 (Bytes.bigEndian 2 n.toUInt16.toNat) (.ok n) := by
  refine gives_of_word n.toUInt16.toNat_lt ?_
  rw [UInt16.ofNat_toNat, Int16.toInt16_toUInt16]

theorem gives_int32 (n : Int32) : Gives int32 (writeInt32 n) (.ok n) := by
  refine gives_of_word n.toUInt32.toNat_lt ?_
  rw [UInt32.ofNat_toNat, Int32.toInt32_toUInt32]

theorem gives_int64 (n : Int64) : Gives int64 (writeInt64 n) (.ok n) := by
  refine gives_of_word n.toUInt64.toNat_lt ?_
  rw [UInt64.ofNat_toNat, Int64.toInt64_toUInt64]

theorem gives_double (d : Double) : Gives double (writeDouble d) (.ok d) := by
  refine gives_of_word d.bits.toNat_lt ?_
  rw [UInt64.ofNat_toNat]

theorem gives_bool (b : Bool) : Gives bool (writeBool b) (.ok b) := by
  cases b <;> exact fun _ => rfl

/-- A size that fits its word. -/
theorem gives_size {n : Nat} (h : n < listLimit) :
    Gives int32 (Bytes.bigEndian 4 n) (.ok (Int32.ofNat n)) :=
  gives_of_word (Nat.lt_trans h (by decide)) UInt32.toInt32_ofNat'

theorem toInt_ofNat {n : Nat} (h : n < listLimit) : (Int32.ofNat n).toInt = n :=
  Int32.toInt_ofNat_of_lt h

/-! ### Byte strings and texts -/

theorem gives_bytes {bs : Bytes} (h : bs.length < listLimit) :
    Gives bytes (writeBytes bs) (.ok bs) := by
  have hnonneg : ¬ (Int32.ofNat bs.length).toInt < 0 := by
    rw [toInt_ofNat h]
    omega
  have hlength : (Int32.ofNat bs.length).toInt.toNat = bs.length := by
    rw [toInt_ofNat h, Int.toNat_natCast]
  refine Gives.bind_ok (gives_size h) ?_
  rw [if_neg hnonneg, hlength]
  intro rest
  simp [Bytes.split?_append]
  rfl

/-- What bytes come to when they are read as a text. -/
def readText (bs : Bytes) : Except Error String :=
  match Utf8.decode bs with
  | .ok s => .ok s
  | .error fault => .error (.badText fault)

theorem gives_text_of_bytes {bs : Bytes} (h : bs.length < listLimit) :
    Gives text (writeBytes bs) (readText bs) := by
  refine Gives.bind_nil (gives_bytes h) ?_
  unfold readText
  cases Utf8.decode bs with
  | ok s => exact Gives.pure s
  | error fault => exact Gives.throw _ _

theorem readText_encode (s : String) : readText (Utf8.encode s) = .ok s := by
  rw [readText, Utf8.decode_encode]

theorem gives_text {s : String} (h : (Utf8.encode s).length < listLimit) :
    Gives text (writeText s) (.ok s) :=
  readText_encode s ▸ gives_text_of_bytes h

/-! ### Heads -/

theorem gives_wireType (t : WireType) : Gives wireType [UInt8.ofNat t.code] (.ok t) := by
  have hcode : (UInt8.ofNat t.code).toNat = t.code := by cases t <;> rfl
  refine Gives.bind_nil (gives_byte _) ?_
  simp only [hcode, WireType.ofCode?_code]
  exact Gives.pure t

theorem gives_fieldHead {t : WireType} (ht : t ≠ .stop) (id : Int16) :
    Gives fieldHead (writeHead t id.toUInt16.toNat) (.ok (some (t, id.toInt))) := by
  refine Gives.bind_cons (gives_wireType t) ?_
  rw [if_neg ht]
  exact (gives_int16 id).map _

theorem gives_fieldHead_stop : Gives fieldHead stop (.ok none) := by
  refine Gives.bind_nil (gives_wireType .stop) ?_
  rw [if_pos rfl]
  exact Gives.pure none

theorem gives_listHead (element : WireType) {n : Nat} (h : n < listLimit) :
    Gives listHead (itemsHead element n) (.ok (element, n)) := by
  refine Gives.bind_cons (gives_wireType element) ?_
  have hsize := (gives_size h).map fun size => (element, size.toInt)
  rw [Except.map, toInt_ofNat h] at hsize
  exact hsize

/-! ### Field loops -/

/-- What a field loop makes of fields from a state on: it stops at the first error. -/
inductive FieldsGive (step : σ → Int → WireType → Reader σ) :
    List Field → σ → Except Error σ → Prop
  | nil (s : σ) : FieldsGive step [] s (.ok s)
  | cons {f : Field} {fs : List Field} {s s' : σ} {o : Except Error σ}
      (first : Gives (step s f.1.toInt f.2.type) f.2.bytes (.ok s'))
      (more : FieldsGive step fs s' o) : FieldsGive step (f :: fs) s o
  | error {f : Field} {fs : List Field} {s : σ} {e : Error}
      (first : Gives (step s f.1.toInt f.2.type) f.2.bytes (.error e)) :
      FieldsGive step (f :: fs) s (.error e)

/-- The loop's bound on the number of fields plays no part where it is large enough. -/
theorem FieldsGive.gives_fieldsUpTo {step : σ → Int → WireType → Reader σ} {fs : List Field}
    {s : σ} {o : Except Error σ} (h : FieldsGive step fs s o) :
    ∀ n, fs.length < n → Gives (fieldsUpTo step n s) (fieldsBytes fs ++ stop) o := by
  induction h with
  | nil s =>
      intro n hn
      obtain ⟨k, rfl⟩ : ∃ k, n = k + 1 := ⟨n - 1, by simp at hn; omega⟩
      exact Gives.bind_nil gives_fieldHead_stop (Gives.pure s)
  | @cons f fs s s' o first _ ih =>
      intro n hn
      obtain ⟨k, rfl⟩ : ∃ k, n = k + 1 := ⟨n - 1, by simp at hn; omega⟩
      rw [fieldsBytes_cons, Field.bytes, List.append_assoc, List.append_assoc]
      refine Gives.bind_ok (gives_fieldHead f.2.type_ne_stop f.1) ?_
      exact Gives.bind_ok first (ih k (by simp at hn; omega))
  | @error f fs s e first =>
      intro n hn
      obtain ⟨k, rfl⟩ : ∃ k, n = k + 1 := ⟨n - 1, by simp at hn; omega⟩
      rw [fieldsBytes_cons, Field.bytes, List.append_assoc, List.append_assoc]
      refine Gives.bind_ok (gives_fieldHead f.2.type_ne_stop f.1) ?_
      exact first.bind_error _ _

/-- **A field loop gives what its steps give.** -/
theorem FieldsGive.gives {step : σ → Int → WireType → Reader σ} {fs : List Field} {s : σ}
    {o : Except Error σ} (h : FieldsGive step fs s o) :
    Gives (fields step s) (fieldsBytes fs ++ stop) o := by
  intro rest
  have hbound : fs.length < (fieldsBytes fs ++ stop ++ rest).length := by
    have hle := length_le_length_fieldsBytes fs
    simp only [List.length_append, stop, List.length_singleton]
    omega
  exact h.gives_fieldsUpTo _ hbound rest

theorem FieldsGive.append {step : σ → Int → WireType → Reader σ} {fs gs : List Field} {s t : σ}
    {o : Except Error σ} (hfs : FieldsGive step fs s (.ok t)) (hgs : FieldsGive step gs t o) :
    FieldsGive step (fs ++ gs) s o := by
  -- the induction is on the first part, whose outcome is known to be a state
  generalize hok : (Except.ok t : Except Error σ) = o' at hfs
  induction hfs with
  | nil s =>
      cases hok
      exact hgs
  | cons first _ ih => exact .cons first (ih hok)
  | error first => cases hok

/-- Where fields are read without an error there is a state between any two of them. -/
theorem FieldsGive.split {step : σ → Int → WireType → Reader σ} {fs gs : List Field} {s u : σ}
    (h : FieldsGive step (fs ++ gs) s (.ok u)) :
    ∃ t, FieldsGive step fs s (.ok t) ∧ FieldsGive step gs t (.ok u) := by
  induction fs generalizing s with
  | nil => exact ⟨s, .nil s, h⟩
  | cons f fs ih =>
      cases h with
      | cons first more =>
          obtain ⟨t, hfs, hgs⟩ := ih more
          exact ⟨t, .cons first hfs, hgs⟩

theorem FieldsGive.single {step : σ → Int → WireType → Reader σ} {f : Field} {s t : σ}
    (h : Gives (step s f.1.toInt f.2.type) f.2.bytes (.ok t)) : FieldsGive step [f] s (.ok t) :=
  .cons h (.nil t)

/-! ### Item loops -/

/-- Items that are read back one by one. -/
theorem gives_many {item : Reader α} {value : α → Value} {xs : List α}
    (h : ∀ x ∈ xs, Gives item (value x).bytes (.ok x)) :
    Gives (many item xs.length) (itemsBytes (xs.map value)) (.ok xs) := by
  induction xs with
  | nil => exact Gives.pure []
  | cons x xs ih =>
      have hxs := ih fun y hy => h y (List.mem_cons_of_mem _ hy)
      exact Gives.bind_ok (h x List.mem_cons_self) (hxs.map fun ys => x :: ys)

/-- A list is its head and its items. -/
theorem gives_listOf_of_many {item : Reader α} {n : Nat} {bs : Bytes}
    {o : Except Error (List α)} (hn : n < listLimit) (h : Gives (many item n) bs o)
    (element : WireType) : Gives (listOf item) (itemsHead element n ++ bs) o := by
  refine Gives.bind_ok (gives_listHead element hn) ?_
  have hnonneg : ¬ ((n : Int) < 0) := by omega
  simp only [hnonneg, if_false, Int.toNat_natCast]
  exact h

/-- **A list of records that are read back is read back.** -/
theorem gives_listOf {item : Reader α} {value : α → Value} {xs : List α}
    (hlength : xs.length < listLimit) (h : ∀ x ∈ xs, Gives item (value x).bytes (.ok x))
    (element : WireType) : Gives (listOf item) (Value.list element (xs.map value)).bytes (.ok xs) := by
  rw [Value.bytes, List.length_map]
  exact gives_listOf_of_many hlength (gives_many h) element

/-- Things are done one by one; the first error is the loop's. -/
theorem gives_times {act : Reader Unit} {write : β → Bytes} {out : β → Except Error Unit}
    {xs : List β} (h : ∀ x ∈ xs, Gives act (write x) (out x)) :
    Gives (times act xs.length) (xs.flatMap write) (forM xs out) := by
  induction xs with
  | nil => exact Gives.pure ()
  | cons x xs ih =>
      have hxs := ih fun y hy => h y (List.mem_cons_of_mem _ hy)
      rw [List.flatMap_cons, List.forM_cons]
      exact Gives.bind (h x List.mem_cons_self) fun _ _ => hxs

end SpanIntake.Thrift

/-
**What readers take.**

A reader that succeeds has taken bytes off the front and has made a value of them; how the two
belong together is what this module says of readers, whatever bytes they are given.  A field loop
keeps what its steps keep, counted in bytes: a head takes three of them, and the end of the record
one.  Since no reader gives bytes back, the bound on the number of fields is never in the way, and
the loop can be read without it.

Main definitions:

* `Thrift.Yields` — a reader that succeeds takes bytes off the front, so that its value and their
  number are as stated.

Main results:

* `Thrift.Yields.bind`, `Thrift.yields_many` — reading one thing after another;
* `Thrift.yields_fields` — **what every step keeps is kept by the loop**;
* `Thrift.yields_skip` — passing over a value takes bytes off the front;
* `Thrift.fields_eq` — **a field loop without its bound**: a head, its field, and the same loop.
-/

import Mathlib.Algebra.GroupWithZero.Nat
import SpanIntake.Proofs.Thrift.Reading

set_option relaxedAutoImplicit false
set_option autoImplicit false

namespace SpanIntake.Thrift

variable {α β σ : Type}

/-! ### Values and numbers of bytes -/

/-- A reader that succeeds takes bytes off the front, and its value and their number are so. -/
def Yields (r : Reader α) (P : α → Nat → Prop) : Prop :=
  ∀ bs x rest, r.run bs = .ok (x, rest) → ∃ taken, bs = taken ++ rest ∧ P x taken.length

theorem Yields.pure {x : α} {P : α → Nat → Prop} (h : P x 0) : Yields (pure x : Reader α) P := by
  intro bs y rest hrun
  cases hrun
  exact ⟨[], rfl, h⟩

theorem Yields.throw {e : Error} {P : α → Nat → Prop} : Yields (throw e : Reader α) P := by
  intro bs y rest hrun
  cases hrun

/-- Reading one thing after another takes the bytes of the one and of the other. -/
theorem Yields.bind {r : Reader α} {f : α → Reader β} {P : α → Nat → Prop} {Q : β → Nat → Prop}
    (hr : Yields r P) (hf : ∀ x n, P x n → Yields (f x) fun y m => Q y (n + m)) :
    Yields (r >>= f) Q := by
  intro bs y rest hrun
  rw [StateT.run_bind] at hrun
  cases hfirst : r.run bs with
  | error e => rw [hfirst] at hrun; cases hrun
  | ok p =>
      obtain ⟨x, mid⟩ := p
      rw [hfirst] at hrun
      obtain ⟨taken, rfl, hx⟩ := hr bs x mid hfirst
      obtain ⟨taken', rfl, hy⟩ := hf x taken.length hx mid y rest hrun
      refine ⟨taken ++ taken', by simp, ?_⟩
      rw [List.length_append]
      exact hy

theorem Yields.mono {r : Reader α} {P Q : α → Nat → Prop} (hr : Yields r P)
    (h : ∀ x n, P x n → Q x n) : Yields r Q := by
  intro bs x rest hrun
  obtain ⟨taken, htaken, hx⟩ := hr bs x rest hrun
  exact ⟨taken, htaken, h x _ hx⟩

/-- A value that is turned into another one without reading. -/
theorem Yields.map {r : Reader α} {f : α → β} {P : α → Nat → Prop} {Q : β → Nat → Prop}
    (hr : Yields r P) (h : ∀ x n, P x n → Q (f x) n) :
    Yields (r >>= fun x => Pure.pure (f x)) Q :=
  hr.bind fun x n hx => .pure (h x n hx)

theorem Yields.discard {r : Reader α} {P : α → Nat → Prop} (hr : Yields r P) :
    Yields (discard r) fun _ _ => True :=
  hr.map fun _ _ _ => trivial

/-! ### Numbers, byte strings and texts -/

theorem yields_byte : Yields byte fun _ n => n = 1 := by
  intro bs b rest hrun
  cases bs with
  | nil => cases hrun
  | cons c bs =>
      cases hrun
      exact ⟨[b], rfl, rfl⟩

theorem yields_word (k : Nat) : Yields (word k) fun _ n => n = k := by
  intro bs w rest hrun
  cases hsplit : Bytes.split? k bs with
  | none =>
      have hfail : (word k).run bs = .error .endOfFile := by simp [word, hsplit]; rfl
      rw [hfail] at hrun
      cases hrun
  | some p =>
      obtain ⟨taken, rest'⟩ := p
      have hread : (word k).run bs = .ok (Bytes.ofBigEndian taken, rest') := by
        simp [word, hsplit]; rfl
      rw [hread] at hrun
      cases hrun
      obtain ⟨hbs, hlength⟩ := Bytes.eq_append_of_split? hsplit
      exact ⟨taken, hbs, hlength⟩

theorem yields_int16 : Yields int16 fun _ n => n = 2 := (yields_word 2).map fun _ _ h => h

theorem yields_int32 : Yields int32 fun _ n => n = 4 := (yields_word 4).map fun _ _ h => h

theorem yields_int64 : Yields int64 fun _ n => n = 8 := (yields_word 8).map fun _ _ h => h

theorem yields_double : Yields double fun _ n => n = 8 := (yields_word 8).map fun _ _ h => h

theorem yields_bool : Yields bool fun _ n => n = 1 := yields_byte.map fun _ _ h => h

/-- A size that is not negative is below the limit. -/
theorem toNat_toInt_lt (size : Int32) : size.toInt.toNat < listLimit := by
  have hlt := size.toInt_lt
  rw [listLimit]
  omega

/-- A byte string takes four bytes more than it has, and fits its length. -/
theorem yields_bytes : Yields bytes fun bs n => bs.length < listLimit ∧ n = 4 + bs.length := by
  refine yields_int32.bind fun size n hn => ?_
  subst hn
  dsimp only
  split
  · exact .throw
  · intro bs x rest hrun
    cases hsplit : Bytes.split? size.toInt.toNat bs with
    | none =>
        simp only [StateT.run_bind, StateT.run_get, pure_bind, hsplit] at hrun
        cases hrun
    | some p =>
        obtain ⟨taken, rest'⟩ := p
        simp only [StateT.run_bind, StateT.run_get, pure_bind, hsplit] at hrun
        cases hrun
        obtain ⟨hbs, hlength⟩ := Bytes.eq_append_of_split? hsplit
        exact ⟨x, hbs, hlength ▸ toNat_toInt_lt size, rfl⟩

/-- A text takes four bytes more than its characters, and they fit its length. -/
theorem yields_text :
    Yields text fun s n => (Utf8.encode s).length < listLimit ∧ n = 4 + (Utf8.encode s).length := by
  refine yields_bytes.bind fun bs n hn => ?_
  cases hdecode : Utf8.decode bs with
  | error fault => exact .throw
  | ok s =>
      refine .pure ?_
      rw [Utf8.encode_of_decode hdecode]
      exact hn

/-! ### Heads -/

theorem yields_wireType : Yields wireType fun _ n => n = 1 := by
  refine yields_byte.bind fun b n hn => ?_
  dsimp only
  cases WireType.ofCode? b.toNat with
  | none => exact .throw
  | some type => exact .pure hn

/-- A head takes three bytes, and the end of a record one. -/
theorem yields_fieldHead :
    Yields fieldHead fun head n => n = if head.isSome then 3 else 1 := by
  refine yields_wireType.bind fun type n hn => ?_
  split
  · exact .pure hn
  · exact yields_int16.map fun id m hm => by simp [hn, hm]

/-- The head of a list takes five bytes, and its size is below the limit. -/
theorem yields_listHead : Yields listHead fun head n => n = 5 ∧ head.2.toNat < listLimit := by
  refine yields_wireType.bind fun type n hn => ?_
  exact yields_int32.map fun size m hm => ⟨by rw [hn, hm], toNat_toInt_lt size⟩

/-! ### Loops -/

/-- The induction is on the bound; what is kept is known for the bytes taken so far. -/
theorem yields_fieldsUpTo {step : σ → Int → WireType → Reader σ} {I : σ → Nat → Prop}
    (hstep : ∀ s id type n, I s n → Yields (step s id type) fun t m => I t (n + 3 + m))
    (bound : Nat) {s : σ} {n : Nat} (hs : I s n) :
    Yields (fieldsUpTo step bound s) fun t m => ∃ l, n + m = l + 1 ∧ I t l := by
  induction bound generalizing s n with
  | zero => exact .throw
  | succ bound ih =>
      refine yields_fieldHead.bind fun head k hk => ?_
      cases head with
      | none => exact .pure ⟨n, by simpa using hk, hs⟩
      | some head =>
          obtain ⟨type, id⟩ := head
          have hk : k = 3 := by simpa using hk
          subst hk
          refine (hstep s id type n hs).bind fun t m ht => ?_
          refine (ih ht).mono fun u l hu => ?_
          obtain ⟨j, hj, hu⟩ := hu
          exact ⟨j, by omega, hu⟩

/-- **What every step keeps is kept by the loop**, the one byte at the end apart. -/
theorem yields_fields {step : σ → Int → WireType → Reader σ} {I : σ → Nat → Prop} {start : σ}
    (hstart : I start 0)
    (hstep : ∀ s id type n, I s n → Yields (step s id type) fun t m => I t (n + 3 + m)) :
    Yields (fields step start) fun t n => ∃ l, n = l + 1 ∧ I t l := by
  intro bs t rest hrun
  obtain ⟨taken, htaken, l, hl, ht⟩ :=
    yields_fieldsUpTo hstep bs.length hstart bs t rest hrun
  exact ⟨taken, htaken, l, by omega, ht⟩

/-- Items take as many bytes as they take one by one. -/
theorem yields_many {item : Reader α} {P : α → Prop} {size : α → Nat}
    (h : Yields item fun x n => P x ∧ size x ≤ n) (n : Nat) :
    Yields (many item n) fun xs m =>
      xs.length = n ∧ (∀ x ∈ xs, P x) ∧ (xs.map size).sum ≤ m := by
  induction n with
  | zero => exact .pure ⟨rfl, by simp, by simp⟩
  | succ n ih =>
      refine h.bind fun x k hx => ?_
      refine ih.map fun xs m hxs => ?_
      obtain ⟨hP, hsize⟩ := hx
      obtain ⟨hlength, hmore, hsum⟩ := hxs
      refine ⟨by rw [List.length_cons, hlength], List.forall_mem_cons.2 ⟨hP, hmore⟩, ?_⟩
      rw [List.map_cons, List.sum_cons]
      omega

/-- A list of records takes five bytes more than its items, whose number fits the size. -/
theorem yields_listOf {item : Reader α} {P : α → Prop} {size : α → Nat}
    (h : Yields item fun x n => P x ∧ size x ≤ n) :
    Yields (listOf item) fun xs m =>
      xs.length < listLimit ∧ (∀ x ∈ xs, P x) ∧ 5 + (xs.map size).sum ≤ m := by
  refine yields_listHead.bind fun head n hn => ?_
  obtain ⟨hn, hsize⟩ := hn
  dsimp only
  split
  · exact .throw
  · refine (yields_many h head.2.toNat).mono fun xs m hxs => ?_
    obtain ⟨hlength, hP, hsum⟩ := hxs
    exact ⟨hlength ▸ hsize, hP, by omega⟩

theorem yields_times {act : Reader Unit} (h : Yields act fun _ _ => True) (n : Nat) :
    Yields (times act n) fun _ _ => True := by
  induction n with
  | zero => exact .pure trivial
  | succ n ih => exact h.bind fun _ _ _ => ih.mono fun _ _ _ => trivial

/-- **Passing over a value takes bytes off the front.** -/
theorem yields_skip (depth : Nat) (type : WireType) : Yields (skip depth type) fun _ _ => True := by
  induction depth generalizing type with
  | zero => exact .throw
  | succ depth ih =>
      cases type with
      | bool | i08 => exact yields_byte.discard
      | i16 | i32 | i64 | double => exact (yields_word _).discard
      | string => exact yields_text.discard
      | struct =>
          refine (yields_fields (I := fun _ _ => True) trivial fun _ _ type _ _ => ih type).mono ?_
          exact fun _ _ _ => trivial
      | list | set => exact yields_listHead.bind fun head _ _ => yields_times (ih head.1) _
      | map =>
          refine yields_wireType.bind (Q := fun _ _ => True) fun key _ _ => ?_
          refine yields_wireType.bind (Q := fun _ _ => True) fun value _ _ => ?_
          refine yields_int32.bind (Q := fun _ _ => True) fun size _ _ => ?_
          exact yields_times ((ih key).bind fun _ _ _ => ih value) _
      | stop | void | utf8 | utf16 => exact .throw

/-! ### Field loops without their bound -/

theorem Yields.length_le {r : Reader α} {P : α → Nat → Prop} (hr : Yields r P) {bs rest : Bytes}
    {x : α} (hrun : r.run bs = .ok (x, rest)) : rest.length ≤ bs.length := by
  obtain ⟨taken, rfl, _⟩ := hr bs x rest hrun
  simp

/-- Every head takes a byte. -/
theorem length_lt_of_fieldHead {bs rest : Bytes} {head : Option (WireType × Int)}
    (hrun : fieldHead.run bs = .ok (head, rest)) : rest.length < bs.length := by
  obtain ⟨taken, rfl, htaken⟩ := yields_fieldHead bs head rest hrun
  rw [List.length_append, htaken]
  split <;> omega

/-- Two bounds that are as large as the number of bytes make no difference. -/
theorem run_fieldsUpTo_eq {step : σ → Int → WireType → Reader σ}
    (hstep : ∀ s id type, Yields (step s id type) fun _ _ => True) {n m : Nat} {bs : Bytes}
    (hn : bs.length ≤ n) (hm : bs.length ≤ m) (s : σ) :
    (fieldsUpTo step n s).run bs = (fieldsUpTo step m s).run bs := by
  induction n generalizing m bs s with
  | zero =>
      obtain rfl : bs = [] := List.length_eq_zero_iff.1 (Nat.le_zero.1 hn)
      cases m with
      | zero => rfl
      | succ m => rfl
  | succ n ih =>
      cases m with
      | zero =>
          obtain rfl : bs = [] := List.length_eq_zero_iff.1 (Nat.le_zero.1 hm)
          rfl
      | succ m =>
          rw [fieldsUpTo, fieldsUpTo, StateT.run_bind, StateT.run_bind]
          cases hhead : fieldHead.run bs with
          | error e => rfl
          | ok p =>
              obtain ⟨head, mid⟩ := p
              have hmid := length_lt_of_fieldHead hhead
              cases head with
              | none => rfl
              | some head =>
                  obtain ⟨type, id⟩ := head
                  show (step s id type >>= fieldsUpTo step n).run mid =
                    (step s id type >>= fieldsUpTo step m).run mid
                  rw [StateT.run_bind, StateT.run_bind]
                  cases hfield : (step s id type).run mid with
                  | error e => rfl
                  | ok q =>
                      have hrest := (hstep s id type).length_le hfield
                      exact ih (by omega) (by omega) q.1

/-- **A field loop without its bound**: a head, its field, and the same loop. -/
theorem fields_eq {step : σ → Int → WireType → Reader σ}
    (hstep : ∀ s id type, Yields (step s id type) fun _ _ => True) (s : σ) :
    fields step s = fieldHead >>= fun head =>
      match head with
      | none => pure s
      | some (type, id) => step s id type >>= fields step := by
  refine StateT.ext fun bs => ?_
  have hloop (t : σ) (cs : Bytes) :
      (fields step t).run cs = (fieldsUpTo step cs.length t).run cs := rfl
  -- one more field than bytes leaves room for the head
  rw [hloop, run_fieldsUpTo_eq hstep (Nat.le_refl _) (Nat.le_succ _) s, fieldsUpTo,
    StateT.run_bind, StateT.run_bind]
  cases hhead : fieldHead.run bs with
  | error e => rfl
  | ok p =>
      obtain ⟨head, mid⟩ := p
      have hmid := length_lt_of_fieldHead hhead
      cases head with
      | none => rfl
      | some head =>
          obtain ⟨type, id⟩ := head
          show (step s id type >>= fieldsUpTo step bs.length).run mid =
            (step s id type >>= fields step).run mid
          rw [StateT.run_bind, StateT.run_bind]
          cases hfield : (step s id type).run mid with
          | error e => rfl
          | ok q =>
              have hrest := (hstep s id type).length_le hfield
              exact run_fieldsUpTo_eq hstep (by omega) (Nat.le_refl _) q.1

end SpanIntake.Thrift

/-
**Passing over values.**

A field without a meaning is passed over together with its value, whatever it is.  Two things can go
wrong with a well-formed value: it is nested deeper than the bound, or a byte string in it is no
text, for byte strings and texts share a type and are both read as texts.

Main definitions:

* `Thrift.Value.pass` — what passing over a value comes to, at most so many levels deep.

Main results:

* `Thrift.gives_skip` — **passing over the bytes of a value takes exactly these bytes off**, or
  fails as `Thrift.Value.pass` says;
* `Thrift.Value.pass_eq_ok_iff` — a value can be passed over exactly if it is nested less deep than
  the bound and textual;
* `Thrift.Value.pass_of_not_textual` — a value that is not nested too deep and not textual has bad
  text.
-/

import SpanIntake.Proofs.Thrift.Reading

set_option relaxedAutoImplicit false
set_option autoImplicit false

namespace SpanIntake.Thrift

namespace Value

/-! ### What passing comes to -/

/-- What a value by itself comes to, its inner values apart. -/
def passOwn : Value → Except Error Unit
  | .string bs => (readText bs).map fun _ => ()
  | _ => .ok ()

/-- What passing over a value comes to, at most so many levels deep: the first fault on the way. -/
def pass : Nat → Value → Except Error Unit
  | 0, v => .error (.tooDeep v.type)
  | depth + 1, v => do
    v.passOwn
    forM v.children (pass depth)

theorem pass_succ (depth : Nat) (v : Value) :
    v.pass (depth + 1) = v.passOwn >>= fun _ => forM v.children (pass depth) := rfl

theorem forM_eq_ok_iff {α : Type} {f : α → Except Error Unit} {xs : List α} :
    forM xs f = .ok () ↔ ∀ x ∈ xs, f x = .ok () := by
  induction xs with
  | nil => simp [pure, Except.pure]
  | cons x xs ih =>
      rw [List.forM_cons, List.forall_mem_cons, ← ih]
      cases hx : f x with
      | error e => simp [bind, Except.bind]
      | ok u => simp [bind, Except.bind]

theorem exists_of_forM_eq_error {α : Type} {f : α → Except Error Unit} {xs : List α} {e : Error}
    (h : forM xs f = .error e) : ∃ x ∈ xs, f x = .error e := by
  induction xs with
  | nil => cases h
  | cons x xs ih =>
      rw [List.forM_cons] at h
      cases hx : f x with
      | error e' =>
          rw [hx] at h
          cases h
          exact ⟨x, List.mem_cons_self, hx⟩
      | ok u =>
          rw [hx] at h
          obtain ⟨y, hy, hfy⟩ := ih h
          exact ⟨y, List.mem_cons_of_mem _ hy, hfy⟩

end Value

/-! ### Passing over bytes -/

theorem fieldsGive_pass {depth : Nat} {fields : List Field}
    (h : ∀ f ∈ fields, Gives (skip depth f.2.type) f.2.bytes (f.2.pass depth)) :
    FieldsGive (fun _ _ type => skip depth type) fields ()
      (forM (fields.map (·.2)) (Value.pass depth)) := by
  induction fields with
  | nil => exact .nil ()
  | cons f fields ih =>
      have hf := h f List.mem_cons_self
      have hmore := ih fun g hg => h g (List.mem_cons_of_mem _ hg)
      rw [List.map_cons, List.forM_cons]
      cases hpass : f.2.pass depth with
      | error e => exact .error (hpass ▸ hf)
      | ok u => exact .cons (hpass ▸ hf) hmore

theorem forM_entries {f : Value → Except Error Unit} (entries : List (Value × Value)) :
    forM (entries.flatMap fun e => [e.1, e.2]) f = forM entries fun e => f e.1 >>= fun _ => f e.2 := by
  induction entries with
  | nil => rfl
  | cons e entries ih =>
      simp only [List.flatMap_cons, List.cons_append, List.nil_append, List.forM_cons, ih, bind_assoc]

/-- **Passing over the bytes of a value takes exactly these bytes off**, or fails as
`Thrift.Value.pass` says. -/
theorem gives_skip (depth : Nat) {v : Value} (hv : v.WellFormed) :
    Gives (skip depth v.type) v.bytes (v.pass depth) := by
  induction depth generalizing v with
  | zero => exact Gives.throw _ _
  | succ depth ih =>
      -- the inner values are passed over with one level less
      have hinner : ∀ c ∈ v.children, Gives (skip depth c.type) c.bytes (c.pass depth) :=
        fun c hc => ih (hv.child hc)
      have hfits := hv.fits
      rw [Value.pass_succ]
      cases v with
      | bool b => exact (gives_byte _).discard
      | i08 b => exact (gives_byte b).discard
      | i16 n => exact (gives_word (k := 2) n.toUInt16.toNat_lt).discard
      | i32 n => exact (gives_word (k := 4) n.toUInt32.toNat_lt).discard
      | i64 n => exact (gives_word (k := 8) n.toUInt64.toNat_lt).discard
      | double d => exact (gives_word (k := 8) d.bits.toNat_lt).discard
      | string bs =>
          show Gives _ _ (((readText bs).map fun _ => ()) >>= fun _ => pure ())
          rw [bind_pure_unit]
          exact (gives_text_of_bytes hfits).discard
      | struct fields =>
          refine (fieldsGive_pass fun f hf => hinner f.2 ?_).gives
          exact List.mem_map.2 ⟨f, hf, rfl⟩
      | list element items | set element items =>
          refine Gives.bind_ok (gives_listHead element hfits.1) ?_
          rw [itemsBytes_eq]
          exact gives_times fun c hc => hfits.2 c hc ▸ hinner c hc
      | map key value entries =>
          refine Gives.bind_cons (gives_wireType key) ?_
          refine Gives.bind_cons (gives_wireType value) ?_
          refine Gives.bind_ok (gives_size hfits.1) ?_
          rw [entriesBytes_eq, toInt_ofNat hfits.1, Int.toNat_natCast]
          show Gives _ _ (forM (entries.flatMap fun e => [e.1, e.2]) (Value.pass depth))
          rw [forM_entries]
          refine gives_times fun e he => ?_
          have hkey := hinner e.1 (List.mem_flatMap.2 ⟨e, he, by simp⟩)
          have hvalue := hinner e.2 (List.mem_flatMap.2 ⟨e, he, by simp⟩)
          rw [(hfits.2 e he).1] at hkey
          rw [(hfits.2 e he).2] at hvalue
          exact Gives.bind hkey fun _ _ => hvalue

/-! ### Values that can be passed over -/

namespace Value

theorem readText_isOk_iff (bs : Bytes) :
    ((readText bs).map fun _ => ()) = .ok () ↔ ∃ s, Utf8.encode s = bs := by
  constructor
  · intro h
    unfold readText at h
    cases hdecode : Utf8.decode bs with
    | error fault => rw [hdecode] at h; cases h
    | ok s => exact ⟨s, Utf8.encode_of_decode hdecode⟩
  · rintro ⟨s, rfl⟩
    rw [readText_encode]
    rfl

theorem passOwn_eq_ok_iff (v : Value) :
    v.passOwn = .ok () ↔ ∀ bs, v = .string bs → ∃ s, Utf8.encode s = bs := by
  cases v with
  | string bs => simp [passOwn, readText_isOk_iff]
  | _ => simp [passOwn]

theorem pass_succ_eq_error {depth : Nat} {v : Value} {e : Error}
    (h : v.pass (depth + 1) = .error e) :
    v.passOwn = .error e ∨ ∃ c ∈ v.children, c.pass depth = .error e := by
  rw [pass_succ] at h
  cases hown : v.passOwn with
  | error e' =>
      rw [hown] at h
      cases h
      exact .inl rfl
  | ok u =>
      rw [hown] at h
      exact .inr (exists_of_forM_eq_error h)

/-- **A value can be passed over exactly if it is nested less deep than the bound and textual.** -/
theorem pass_eq_ok_iff (depth : Nat) (v : Value) :
    v.pass depth = .ok () ↔ v.depth < depth ∧ v.Textual := by
  induction depth generalizing v with
  | zero => simp [pass]
  | succ depth ih =>
      have hbind : v.pass (depth + 1) = .ok () ↔
          v.passOwn = .ok () ∧ forM v.children (pass depth) = .ok () := by
        rw [pass_succ]
        cases v.passOwn <;> simp [bind, Except.bind]
      rw [hbind, passOwn_eq_ok_iff, forM_eq_ok_iff, textual_iff, depth_lt_succ_iff]
      simp only [ih]
      constructor
      · rintro ⟨hown, hinner⟩
        exact ⟨fun c hc => (hinner c hc).1, hown, fun c hc => (hinner c hc).2⟩
      · rintro ⟨hdepth, hown, htextual⟩
        exact ⟨hown, fun c hc => ⟨hdepth c hc, htextual c hc⟩⟩

theorem exists_fault_of_passOwn {v : Value} {e : Error} (h : v.passOwn = .error e) :
    ∃ fault, e = .badText fault := by
  cases v with
  | string bs =>
      simp only [passOwn, readText] at h
      cases hdecode : Utf8.decode bs with
      | ok s => rw [hdecode] at h; cases h
      | error fault =>
          rw [hdecode] at h
          cases h
          exact ⟨fault, rfl⟩
  | _ => cases h

/-- Where a value is not nested too deep, only bad text can be in the way. -/
theorem exists_fault_of_pass {depth : Nat} {v : Value} {e : Error} (hdepth : v.depth < depth)
    (h : v.pass depth = .error e) : ∃ fault, e = .badText fault := by
  induction depth generalizing v with
  | zero => exact absurd hdepth (Nat.not_lt_zero _)
  | succ depth ih =>
      rcases pass_succ_eq_error h with hown | ⟨c, hc, hpass⟩
      · exact exists_fault_of_passOwn hown
      · exact ih ((depth_lt_succ_iff v depth).1 hdepth c hc) hpass

/-- **A value that is not nested too deep and not textual has bad text.** -/
theorem pass_of_not_textual {depth : Nat} {v : Value} (hdepth : v.depth < depth)
    (h : ¬ v.Textual) : ∃ fault, v.pass depth = .error (.badText fault) := by
  cases hpass : v.pass depth with
  | ok u => exact absurd ((pass_eq_ok_iff depth v).1 hpass).2 h
  | error e =>
      obtain ⟨fault, rfl⟩ := exists_fault_of_pass hdepth hpass
      exact ⟨fault, rfl⟩

end Value

end SpanIntake.Thrift

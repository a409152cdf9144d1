/-
**Every turn takes a byte.**

How often a loop of the readers runs is said by the bytes that are read, and these may say anything.
But no turn is free: a field begins with a head of three bytes, the end of a record is a byte, and
an item or an entry of a map takes at least one byte that no turn within it has taken.  So the bytes
that were taken pay for all turns that were completed, and where a reader fails, the bytes that it
was given do.  Hence there are never more turns than bytes, and the bound on the number of fields
is never what ends a loop.

Main definitions:

* `Thrift.Tally.Paid` — so many bytes pay for the turns of a tally;
* `Thrift.Metered.Keeps` — what is so of a reader's value, tally and bytes;
* `Thrift.Metered.EveryTurnPaid` — the turns of all loops take bytes.

Main results:

* `Thrift.Metered.Keeps.bind`, `Thrift.Metered.keeps_turn`, `Thrift.Metered.advances_fields` — one
  thing after another, one turn, and the loop;
* `Thrift.Metered.advances_skip`, `Thrift.Metered.advances_read` — **passing over values and reading
  records is paid for**;
* `Thrift.decode_progress` — **the decoder makes progress**.
-/

import SpanIntake.Proofs.Thrift.FieldOrder
import SpanIntake.Proofs.Thrift.Metered

set_option relaxedAutoImplicit false
set_option autoImplicit false

namespace SpanIntake.Thrift

variable {α β σ : Type}

/-! ### Bytes that pay for turns -/

namespace Tally

theorem fields_add (t u : Tally) : (t + u).fields = t.fields + u.fields := rfl

theorem ends_add (t u : Tally) : (t + u).ends = t.ends + u.ends := rfl

theorem items_add (t u : Tally) : (t + u).items = t.items + u.items := rfl

theorem add_zero (t : Tally) : t + 0 = t := rfl

theorem zero_add (t : Tally) : 0 + t = t := by
  cases t
  show Tally.mk (0 + _) (0 + _) (0 + _) = _
  simp only [Nat.zero_add]

/-- So many bytes pay for the turns of a tally.  A field costs three, an item or the end of a record
one; but the end of a record that is an item is the byte of the item. -/
structure Paid (t : Tally) (n : Nat) : Prop where
  items : 3 * t.fields + t.items ≤ n
  ends : 3 * t.fields + t.ends ≤ n

theorem paid_zero (n : Nat) : Paid 0 n := ⟨Nat.zero_le n, Nat.zero_le n⟩

theorem Paid.add {t u : Tally} {n m : Nat} (ht : t.Paid n) (hu : u.Paid m) :
    (t + u).Paid (n + m) := by
  obtain ⟨hitems, hends⟩ := ht
  obtain ⟨hitems', hends'⟩ := hu
  constructor
  · rw [fields_add, items_add]
    omega
  · rw [fields_add, ends_add]
    omega

/-- A byte is left when the items are paid for. -/
def Spare (t : Tally) (n : Nat) : Prop := 3 * t.fields + t.items < n

theorem Paid.mono {t : Tally} {n m : Nat} (ht : t.Paid n) (h : n ≤ m) : t.Paid m :=
  ⟨Nat.le_trans ht.items h, Nat.le_trans ht.ends h⟩

theorem Paid.add_spare {t u : Tally} {n m : Nat} (ht : t.Paid n) (hu : u.Spare m) :
    (t + u).Spare (n + m) := by
  have hitems := ht.items
  rw [Spare] at hu
  rw [Spare, fields_add, items_add]
  omega

theorem Paid.spare {t : Tally} {n m : Nat} (ht : t.Paid m) (hn : 1 ≤ n) : t.Spare (n + m) := by
  have hitems := ht.items
  rw [Spare]
  omega

theorem Spare.add_paid {t u : Tally} {n m : Nat} (ht : t.Spare n) (hu : u.Paid m) :
    (t + u).Spare (n + m) := by
  have hitems := hu.items
  rw [Spare] at ht
  rw [Spare, fields_add, items_add]
  omega

end Tally

namespace Metered

/-! ### What readers keep -/

/-- The bytes that a reader takes pay for the turns it completes, and its value, its tally and the
number of bytes are so; where it fails the bytes that it was given pay. -/
structure Keeps (m : Metered α) (P : α → Tally → Nat → Prop) : Prop where
  ok : ∀ bs x rest t, m bs = (.ok (x, rest), t) →
    ∃ taken, bs = taken ++ rest ∧ t.Paid taken.length ∧ P x t taken.length
  error : ∀ bs e t, m bs = (.error e, t) → t.Paid bs.length

/-- All turns are paid for. -/
abbrev Affords (m : Metered α) : Prop := Keeps m fun _ _ _ => True

/-- All turns are paid for, and a byte is left for the turn whose body it is. -/
abbrev Advances (m : Metered α) : Prop := Keeps m fun _ t n => t.Spare n

theorem Keeps.mono {m : Metered α} {P Q : α → Tally → Nat → Prop} (hm : Keeps m P)
    (h : ∀ x t n, t.Paid n → P x t n → Q x t n) : Keeps m Q where
  ok bs x rest t hrun := by
    obtain ⟨taken, htaken, hpaid, hx⟩ := hm.ok bs x rest t hrun
    exact ⟨taken, htaken, hpaid, h x t _ hpaid hx⟩
  error := hm.error

theorem Advances.affords {m : Metered α} (hm : Advances m) : Affords m :=
  hm.mono fun _ _ _ _ _ => trivial

theorem Keeps.pure {x : α} {P : α → Tally → Nat → Prop} (h : P x 0 0) :
    Keeps (pure x : Metered α) P where
  ok bs y rest t hrun := by
    cases hrun
    exact ⟨[], rfl, Tally.paid_zero 0, h⟩
  error bs e t hrun := by cases hrun

/-- A reader without loops keeps what it yields. -/
theorem Keeps.ofReader {r : Reader α} {R : α → Nat → Prop} {P : α → Tally → Nat → Prop}
    (hr : Yields r R) (h : ∀ x n, R x n → P x 0 n) : Keeps (ofReader r) P where
  ok bs x rest t hrun := by
    obtain ⟨hread, rfl⟩ := Prod.mk.inj hrun
    obtain ⟨taken, htaken, hx⟩ := hr bs x rest hread
    exact ⟨taken, htaken, Tally.paid_zero _, h x _ hx⟩
  error bs e t hrun := by
    obtain ⟨-, rfl⟩ := Prod.mk.inj hrun
    exact Tally.paid_zero _

/-- One thing after another takes the bytes of the one and of the other, and makes the turns of
both. -/
theorem Keeps.bind {m : Metered α} {f : α → Metered β} {P : α → Tally → Nat → Prop}
    {Q : β → Tally → Nat → Prop} (hm : Keeps m P)
    (hf : ∀ x t n, P x t n → Keeps (f x) fun y u l => Q y (t + u) (n + l)) :
    Keeps (m >>= f) Q where
  ok bs y rest t hrun := by
    change andThen m f bs = _ at hrun
    rw [andThen] at hrun
    split at hrun
    case h_1 => cases hrun
    case h_2 x mid u hfirst =>
      obtain ⟨hsecond, rfl⟩ := Prod.mk.inj hrun
      obtain ⟨taken, rfl, hpaid, hx⟩ := hm.ok bs x mid u hfirst
      obtain ⟨taken', rfl, hpaid', hy⟩ :=
        (hf x u _ hx).ok mid y rest (f x mid).2 (Prod.ext hsecond rfl)
      refine ⟨taken ++ taken', by simp, ?_⟩
      rw [List.length_append]
      exact ⟨hpaid.add hpaid', hy⟩
  error bs e t hrun := by
    change andThen m f bs = _ at hrun
    rw [andThen] at hrun
    split at hrun
    case h_1 e' u hfirst =>
      obtain ⟨-, rfl⟩ := Prod.mk.inj hrun
      exact hm.error bs e' u hfirst
    case h_2 x mid u hfirst =>
      obtain ⟨hsecond, rfl⟩ := Prod.mk.inj hrun
      obtain ⟨taken, rfl, hpaid, hx⟩ := hm.ok bs x mid u hfirst
      have hpaid' := (hf x u _ hx).error mid e (f x mid).2 (Prod.ext hsecond rfl)
      rw [List.length_append]
      exact hpaid.add hpaid'

/-- A turn counts if it is completed, and is paid for by what its body has left. -/
theorem Keeps.counted {m : Metered α} {turn : α → Tally} {P Q : α → Tally → Nat → Prop}
    (hm : Keeps m P)
    (h : ∀ x t n, t.Paid n → P x t n → (t + turn x).Paid n ∧ Q x (t + turn x) n) :
    Keeps (counted turn m) Q where
  ok bs x rest t hrun := by
    rw [Metered.counted] at hrun
    split at hrun
    case h_1 => cases hrun
    case h_2 y mid u hbody =>
      obtain ⟨hread, rfl⟩ := Prod.mk.inj hrun
      cases hread
      obtain ⟨taken, htaken, hpaid, hx⟩ := hm.ok bs x rest u hbody
      exact ⟨taken, htaken, h x u _ hpaid hx⟩
  error bs e t hrun := by
    rw [Metered.counted] at hrun
    split at hrun
    case h_1 e' u hbody =>
      obtain ⟨-, rfl⟩ := Prod.mk.inj hrun
      exact hm.error bs e' u hbody
    case h_2 => cases hrun

/-- **What a reader takes when its tally is left out.** -/
theorem Keeps.yields {m : Metered α} {r : Reader α} {P : α → Tally → Nat → Prop} (hm : Keeps m P)
    (herase : m.erase = r) : Yields r fun x n => ∃ t : Tally, t.Paid n ∧ P x t n := by
  subst herase
  intro bs x rest hrun
  obtain ⟨taken, htaken, hpaid, hx⟩ := hm.ok bs x rest (m bs).2 (Prod.ext hrun rfl)
  exact ⟨taken, htaken, _, hpaid, hx⟩

/-! ### Loops -/

/-- The body of a loop over items pays for its turn. -/
theorem Advances.counted {m : Metered α} (hm : Advances m) :
    Keeps (counted (fun _ => .item) m) fun _ _ n => 1 ≤ n := by
  refine Keeps.counted hm fun x t n hpaid hspare => ⟨⟨hspare, hpaid.ends⟩, ?_⟩
  rw [Tally.Spare] at hspare
  omega

theorem Keeps.paid {m : Metered α} {P : α → Tally → Nat → Prop} (hm : Keeps m P) :
    Keeps m fun _ t n => t.Paid n :=
  hm.mono fun _ _ _ hpaid _ => hpaid

/-- What a turn of a field loop has come to before it counts: the bytes of a head beyond those of
the field, or the byte of the end. -/
def Headed (next : Option σ) (t : Tally) (n : Nat) : Prop :=
  if next.isSome then ∃ l, t.Paid l ∧ n = 3 + l else t = 0 ∧ n = 1

/-- **One turn of a field loop is paid for by the head of the field**, or by the end of the record,
whose byte is left. -/
theorem keeps_turn {step : σ → Int → WireType → Metered σ}
    (hstep : ∀ s id type, Affords (step s id type)) (s : σ) :
    Keeps (turn step s) fun next t n => 1 ≤ n ∧ (next = none → t.Spare n) := by
  refine Keeps.counted (P := Headed) ?_ fun next t n _ hheaded => ?_
  · refine (Keeps.ofReader (P := fun head t n => t = 0 ∧ n = if head.isSome then 3 else 1)
      yields_fieldHead fun head n hn => ⟨rfl, hn⟩).bind fun head t n hhead => ?_
    obtain ⟨rfl, rfl⟩ := hhead
    cases head with
    | none => exact Keeps.pure ⟨rfl, rfl⟩
    | some head =>
        obtain ⟨type, id⟩ := head
        refine (hstep s id type).paid.bind fun next u l hu => Keeps.pure ⟨l, ?_, rfl⟩
        simpa only [Tally.add_zero, Tally.zero_add] using hu
  · cases next with
    | none =>
        obtain ⟨rfl, rfl⟩ : t = 0 ∧ n = 1 := hheaded
        show Tally.recordEnd.Paid 1 ∧ 1 ≤ 1 ∧ (_ → Tally.recordEnd.Spare 1)
        exact ⟨⟨by decide, by decide⟩, Nat.le_refl 1, fun _ => Nat.one_pos⟩
    | some next =>
        obtain ⟨l, ⟨hitems, hends⟩, rfl⟩ : ∃ l, t.Paid l ∧ n = 3 + l := hheaded
        refine ⟨⟨?_, ?_⟩, by omega, fun hnext => by cases hnext⟩
        · show 3 * (t.fields + 1) + (t.items + 0) ≤ 3 + l
          omega
        · show 3 * (t.fields + 1) + (t.ends + 0) ≤ 3 + l
          omega

/-- The induction is on the bound.  The byte that is left is that of the end of the record. -/
theorem advances_fieldsUpTo {step : σ → Int → WireType → Metered σ}
    (hstep : ∀ s id type, Affords (step s id type)) (bound : Nat) (s : σ) :
    Advances (fieldsUpTo step bound s) := by
  induction bound generalizing s with
  | zero => exact Keeps.ofReader (R := fun _ _ => False) .throw fun _ _ h => h.elim
  | succ bound ih =>
      refine ((keeps_turn hstep s).mono (Q := fun next t n => t.Paid n ∧ (next = none → t.Spare n))
        fun _ _ _ hpaid h => ⟨hpaid, h.2⟩).bind fun next t n hnext => ?_
      obtain ⟨hpaid, hspare⟩ := hnext
      cases next with
      | none => exact Keeps.pure (by simpa only [Tally.add_zero, Nat.add_zero] using hspare rfl)
      | some next => exact (ih next).mono fun _ u l _ hu => hpaid.add_spare hu

/-- **A field loop is paid for**, and the byte at the end of the record is left. -/
theorem advances_fields {step : σ → Int → WireType → Metered σ}
    (hstep : ∀ s id type, Affords (step s id type)) (start : σ) : Advances (fields step start) where
  ok bs := (advances_fieldsUpTo hstep bs.length start).ok bs
  error bs := (advances_fieldsUpTo hstep bs.length start).error bs

/-- The induction is on the number of items. -/
theorem affords_many {item : Metered α} (h : Advances item) (n : Nat) : Affords (many item n) := by
  induction n with
  | zero => exact Keeps.pure trivial
  | succ n ih =>
      refine h.counted.bind fun x t n _ => ?_
      exact ih.bind fun xs u l _ => Keeps.pure trivial

theorem affords_times {act : Metered Unit} (h : Advances act) (n : Nat) :
    Affords (times act n) := by
  induction n with
  | zero => exact Keeps.pure trivial
  | succ n ih => exact h.counted.bind fun _ _ _ _ => ih

/-- Something behind a head without turns: the bytes of the head are left. -/
theorem Advances.behind {r : Reader α} {f : α → Metered β} (hr : Yields r fun _ n => 1 ≤ n)
    (hf : ∀ x, Affords (f x)) : Advances (ofReader r >>= f) := by
  refine (Keeps.ofReader (P := fun _ t n => t = 0 ∧ 1 ≤ n) hr fun _ _ hn => ⟨rfl, hn⟩).bind ?_
  rintro x t n ⟨rfl, hn⟩
  refine (hf x).mono fun y u l hpaid _ => ?_
  rw [Tally.zero_add]
  exact hpaid.spare hn

theorem yields_listHead_pos : Yields listHead fun _ n => 1 ≤ n :=
  yields_listHead.mono fun _ n h => by omega

theorem affords_listOf {item : Metered α} (h : Advances item) : Affords (listOf item) := by
  refine Keeps.bind (P := fun _ _ _ => True) (Keeps.ofReader yields_listHead fun _ _ _ => trivial)
    fun head _ _ _ => ?_
  dsimp only
  split
  · exact Keeps.ofReader (R := fun _ _ => False) .throw fun _ _ h => h.elim
  · exact affords_many h _

/-! ### Passing over values -/

theorem Advances.ofReader {r : Reader α} (hr : Yields r fun _ n => 1 ≤ n) :
    Advances (ofReader r) :=
  Keeps.ofReader hr fun _ _ hn => hn

theorem Advances.bind {m : Metered α} {f : α → Metered β} (hm : Advances m)
    (hf : ∀ x, Affords (f x)) : Advances (m >>= f) :=
  Keeps.bind hm fun x _ _ hspare => (hf x).mono fun _ _ _ hpaid _ => hspare.add_paid hpaid

theorem yields_discard {r : Reader α} {n : Nat} (hr : Yields r fun _ m => m = n) (hn : 1 ≤ n) :
    Yields (discard r) fun _ m => 1 ≤ m :=
  hr.map fun _ _ hm => hm ▸ hn

/-- **Passing over a value is paid for**, and takes a byte of its own: a type without one cannot be
passed over.  The induction is on the depth. -/
theorem advances_skip (depth : Nat) (type : WireType) : Advances (skip depth type) := by
  induction depth generalizing type with
  | zero => exact Advances.ofReader .throw
  | succ depth ih =>
      have hitems (element : WireType) (n : Nat) : Affords (times (skip depth element) n) :=
        affords_times (ih element) n
      cases type with
      | bool | i08 => exact .ofReader (yields_discard yields_byte (by decide))
      | i16 | i32 | i64 | double => exact .ofReader (yields_discard (yields_word _) (by decide))
      | string => exact .ofReader (yields_text.map fun _ _ h => by omega)
      | struct => exact advances_fields (fun _ _ type => (ih type).mono fun _ _ _ _ _ => trivial) ()
      | list | set => exact Advances.behind yields_listHead_pos fun head => hitems head.1 _
      | map =>
          refine Advances.behind (yields_wireType.mono fun _ _ h => by omega) fun key => ?_
          refine Keeps.bind (P := fun _ _ _ => True)
            (Keeps.ofReader yields_wireType fun _ _ _ => trivial) fun value _ _ _ => ?_
          refine Keeps.bind (P := fun _ _ _ => True)
            (Keeps.ofReader yields_int32 fun _ _ _ => trivial) fun size _ _ _ => ?_
          exact affords_times ((ih key).bind fun _ => (ih value).affords) _
      | stop | void | utf8 | utf16 => exact .ofReader .throw

/-! ### Records -/

theorem yields_of_closes {r : Reader α} (h : Closes r) : Yields r fun _ _ => True := by
  obtain ⟨o, -, hgives⟩ := h
  intro bs x rest hrun
  have hnone : r.run bs = o.map fun x => (x, bs) := hgives bs
  rw [hnone] at hrun
  cases o with
  | error e => cases hrun
  | ok y =>
      cases hrun
      exact ⟨[], rfl, trivial⟩

theorem affords_plain (k : RecordKind) (d : k.Draft) (id : Int) (type : WireType) :
    Affords (plain k d id type) := by
  unfold plain
  split
  · exact Keeps.ofReader (k.yields_step d id type) fun _ _ _ => trivial
  · exact (advances_skip maxDepth type).affords.bind fun _ _ _ _ => Keeps.pure trivial

theorem advances_record {k : RecordKind} {step : k.Draft → Int → WireType → Metered k.Draft}
    (hstep : ∀ d id type, Affords (step d id type)) : Advances (record k step) :=
  (advances_fields hstep k.start).bind fun d =>
    Keeps.ofReader (yields_of_closes (k.closes_finish d)) fun _ _ _ => trivial

/-- A value that is put into a draft. -/
theorem Affords.put {m : Metered α} (hm : Affords m) (put : α → β) :
    Affords (m >>= fun x => pure (put x)) :=
  hm.bind fun _ _ _ _ => Keeps.pure trivial

theorem advances_readTag : Advances readTag := advances_record (affords_plain .tag)

theorem affords_logStep (d : LogDraft) (id : Int) (type : WireType) :
    Affords (logStep d id type) := by
  unfold logStep
  split
  · exact (affords_listOf advances_readTag).put _
  · exact affords_plain .log d id type

theorem affords_spanStep (d : SpanDraft) (id : Int) (type : WireType) :
    Affords (spanStep d id type) := by
  unfold spanStep
  split
  · exact (affords_listOf (advances_record (affords_plain .spanRef))).put _
  · exact (affords_listOf advances_readTag).put _
  · exact (affords_listOf (advances_record affords_logStep)).put _
  · exact affords_plain .span d id type

theorem affords_processStep (d : ProcessDraft) (id : Int) (type : WireType) :
    Affords (processStep d id type) := by
  unfold processStep
  split
  · exact (affords_listOf advances_readTag).put _
  · exact affords_plain .process d id type

theorem affords_batchStep (d : BatchDraft) (id : Int) (type : WireType) :
    Affords (batchStep d id type) := by
  unfold batchStep
  split
  · exact (advances_record affords_processStep).affords.put _
  · exact (affords_listOf (advances_record affords_spanStep)).put _
  · exact affords_plain .batch d id type

theorem affords_step (k : RecordKind) (d : k.Draft) (id : Int) (type : WireType) :
    Affords (step k d id type) := by
  cases k with
  | batch => exact affords_batchStep d id type
  | process => exact affords_processStep d id type
  | span => exact affords_spanStep d id type
  | spanRef => exact affords_plain .spanRef d id type
  | log => exact affords_logStep d id type
  | tag => exact affords_plain .tag d id type

/-- **Reading a record is paid for**, and the byte of its end is left. -/
theorem advances_read (k : RecordKind) : Advances (read k) := advances_record (affords_step k)

/-! ### The decoder -/

/-- The turns of all loops of the decoder take at least one byte each, and the bytes that a turn
takes pay for it and for the turns within it. -/
structure EveryTurnPaid : Prop where
  /-- A field of a record, or its end. -/
  field : ∀ (k : RecordKind) (d : k.Draft), Keeps (turn (step k) d) fun _ _ n => 1 ≤ n
  /-- A field of a record that is passed over, or its end. -/
  passedField : ∀ depth, Keeps (turn (fun _ _ type => skip depth type) ()) fun _ _ n => 1 ≤ n
  /-- A record in a list. -/
  item : ∀ k : RecordKind, Keeps (counted (fun _ => .item) (read k)) fun _ _ n => 1 ≤ n
  /-- An item of a list or a set that is passed over. -/
  passedItem : ∀ depth type,
    Keeps (counted (fun _ => .item) (skip depth type)) fun _ _ n => 1 ≤ n
  /-- An entry of a map that is passed over. -/
  passedEntry : ∀ depth key value,
    Keeps (counted (fun _ => .item) (do skip depth key; skip depth value)) fun _ _ n => 1 ≤ n

theorem everyTurnPaid : EveryTurnPaid where
  field k d := (keeps_turn (affords_step k) d).mono fun _ _ _ _ h => h.1
  passedField depth :=
    (keeps_turn (fun _ _ type => (advances_skip depth type).affords) ()).mono fun _ _ _ _ h => h.1
  item k := (advances_read k).counted
  passedItem depth type := (advances_skip depth type).counted
  passedEntry depth key value :=
    ((advances_skip depth key).bind fun _ => (advances_skip depth value).affords).counted

/-- The bytes that a reader is given pay for all its turns. -/
theorem Keeps.paid_length {m : Metered α} {P : α → Tally → Nat → Prop} (hm : Keeps m P)
    (bs : Bytes) : (m bs).2.Paid bs.length := by
  rcases hrun : m bs with ⟨e | ⟨x, rest⟩, t⟩
  · exact hm.error bs e t hrun
  · obtain ⟨taken, rfl, hpaid, -⟩ := hm.ok bs x rest t hrun
    rw [List.length_append]
    exact hpaid.mono (Nat.le_add_right _ _)

end Metered

/-- **The decoder makes progress.**  It is the metered reader without its tally.  Every turn of
every loop that it runs, over the fields of a record that it reads or passes over, over the items of
a list or a set and over the entries of a map, takes at least one byte of its own.  So whatever the
bytes are, not more turns of field loops and not more turns of item loops are completed than there
are bytes, also where the decoder fails; no loop is ended by the bound on its turns; and nothing is
read behind the bytes that are taken. -/
theorem decode_progress :
    (∀ k : RecordKind, (Metered.read k).erase = k.read) ∧
    (∀ depth type, (Metered.skip depth type).erase = skip depth type) ∧
    Metered.EveryTurnPaid ∧
    (∀ bs, (Metered.read .batch bs).1.map Prod.fst = decode bs ∧
      (Metered.read .batch bs).2.fields + (Metered.read .batch bs).2.ends ≤ bs.length ∧
      3 * (Metered.read .batch bs).2.fields + (Metered.read .batch bs).2.items ≤ bs.length) ∧
    (∀ (k : RecordKind) (d : k.Draft) (bs : Bytes) (more : Nat),
      (fieldsUpTo k.step (bs.length + more) d).run bs = (fields k.step d).run bs) ∧
    (∀ (depth : Nat) (bs : Bytes) (more : Nat),
      (fieldsUpTo (fun _ _ type => skip depth type) (bs.length + more) ()).run bs =
        (fields (fun _ _ type => skip depth type) ()).run bs) ∧
    (Yields readBatch fun _ n => 1 ≤ n) ∧ Steady readBatch := by
  refine ⟨Metered.erase_read, Metered.erase_skip, Metered.everyTurnPaid, fun bs => ?_,
    fun k d bs more => ?_, fun depth bs more => ?_, ?_, RecordKind.steady_read .batch⟩
  · obtain ⟨hitems, hends⟩ := (Metered.advances_read .batch).paid_length bs
    have herase : (Metered.read .batch bs).1 = readBatch.run bs :=
      congrFun (Metered.erase_read .batch) bs
    rw [decode, herase]
    exact ⟨rfl, by omega, hitems⟩
  · exact run_fieldsUpTo_eq k.yields_step (Nat.le_add_right _ _) (Nat.le_refl _) d
  · exact run_fieldsUpTo_eq (fun _ _ type => yields_skip depth type) (Nat.le_add_right _ _)
      (Nat.le_refl _) ()
  · refine ((Metered.advances_read .batch).yields (Metered.erase_read .batch)).mono ?_
    rintro b n ⟨t, -, hspare⟩
    rw [Tally.Spare] at hspare
    omega

/-- A process with a list of two bytes that is passed over, but without a name. -/
example : Metered.read .batch [12, 0, 1, 15, 0, 9, 3, 0, 0, 0, 2, 7, 7, 0, 0] =
    (.error (.missingField "Process" "serviceName"), ⟨1, 1, 2⟩) := by
  rfl

end SpanIntake.Thrift

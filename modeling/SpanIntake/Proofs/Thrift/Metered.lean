/-
**Readers that count their turns.**

The readers of records run in loops: over the fields of a record, until its end is found, and over
the items of a list, a set or a map, as many as its size says.  Here the same readers keep a tally
of the turns that these loops complete.  A turn that fails is not counted, but what was counted
before it is kept.  Without their tallies they are the readers that run.

Main definitions:

* `Thrift.Tally` — how many turns were completed, by the kind of loop;
* `Thrift.Metered` — a reader with a tally, which it keeps where it fails;
* `Thrift.Metered.turn` — one turn of a field loop;
* `Thrift.Metered.skip`, `Thrift.Metered.read` — passing over values and reading records.

Main results:

* `Thrift.Metered.erase_fields`, `Thrift.Metered.erase_many` — the loops without their tallies;
* `Thrift.Metered.erase_read` — **without its tally a reader of records is the one that runs**.
-/

import SpanIntake.Proofs.Thrift.RecordKind

set_option relaxedAutoImplicit false
set_option autoImplicit false

namespace SpanIntake.Thrift

variable {α β σ : Type}

/-! ### Tallies -/

/-- How many turns of loops were completed. -/
structure Tally where
  /-- Turns that read a field. -/
  fields : Nat
  /-- Turns that found the end of a record. -/
  ends : Nat
  /-- Turns that read or passed over an item of a list or a set, or an entry of a map. -/
  items : Nat
  deriving DecidableEq

namespace Tally

instance : Zero Tally := ⟨⟨0, 0, 0⟩⟩

instance : Add Tally := ⟨fun t u => ⟨t.fields + u.fields, t.ends + u.ends, t.items + u.items⟩⟩

/-- One field. -/
def field : Tally := ⟨1, 0, 0⟩

/-- One end of a record. -/
def recordEnd : Tally := ⟨0, 1, 0⟩

/-- One item. -/
def item : Tally := ⟨0, 0, 1⟩

end Tally

/-! ### Readers with tallies -/

/-- A reader with a tally, which it keeps where it fails. -/
def Metered (α : Type) : Type := Bytes → Except Error (α × Bytes) × Tally

namespace Metered

/-- One thing after another. -/
def andThen (m : Metered α) (f : α → Metered β) : Metered β := fun bs =>
  match m bs with
  | (.error e, t) => (.error e, t)
  | (.ok (x, rest), t) => ((f x rest).1, t + (f x rest).2)

instance : Monad Metered where
  pure x := fun bs => (.ok (x, bs), 0)
  bind := andThen

/-- A reader that has no loop to count. -/
def ofReader (r : Reader α) : Metered α := fun bs => (r.run bs, 0)

/-- The body of a loop, whose turn counts if it is completed. -/
def counted (turn : α → Tally) (m : Metered α) : Metered α := fun bs =>
  match m bs with
  | (.error e, t) => (.error e, t)
  | (.ok (x, rest), t) => (.ok (x, rest), t + turn x)

/-- The reader without its tally. -/
def erase (m : Metered α) : Reader α := fun bs => (m bs).1

theorem erase_pure (x : α) : (pure x : Metered α).erase = pure x := rfl

@[simp]
theorem erase_bind (m : Metered α) (f : α → Metered β) :
    (m >>= f).erase = m.erase >>= fun x => (f x).erase := by
  refine StateT.ext fun bs => ?_
  rw [StateT.run_bind]
  show (andThen m f bs).1 = (m bs).1 >>= fun p => (f p.1 p.2).1
  rw [andThen]
  rcases m bs with ⟨_ | ⟨x, rest⟩, t⟩ <;> rfl

@[simp]
theorem erase_ofReader (r : Reader α) : (ofReader r).erase = r := rfl

@[simp]
theorem erase_counted (turn : α → Tally) (m : Metered α) : (counted turn m).erase = m.erase := by
  refine StateT.ext fun bs => ?_
  show (counted turn m bs).1 = (m bs).1
  rw [counted]
  rcases m bs with ⟨_ | ⟨x, rest⟩, t⟩ <;> rfl

/-! ### Loops -/

/-- One turn of a field loop: nothing at the end of the record. -/
def turn (step : σ → Int → WireType → Metered σ) (s : σ) : Metered (Option σ) :=
  counted (fun next => if next.isSome then .field else .recordEnd) do
    match ← ofReader fieldHead with
    | none => pure none
    | some (type, id) => return some (← step s id type)

/-- Reads fields until the record is closed, at most as many as the first argument says. -/
def fieldsUpTo (step : σ → Int → WireType → Metered σ) : Nat → σ → Metered σ
  | 0, _ => ofReader (throw .endOfFile)
  | more + 1, s => do
    match ← turn step s with
    | none => pure s
    | some next => fieldsUpTo step more next

/-- Reads the fields of a record. -/
def fields (step : σ → Int → WireType → Metered σ) (start : σ) : Metered σ := fun bs =>
  fieldsUpTo step bs.length start bs

/-- Reads `n` items. -/
def many (item : Metered α) : Nat → Metered (List α)
  | 0 => pure []
  | n + 1 => do
    let x ← counted (fun _ => .item) item
    let xs ← many item n
    pure (x :: xs)

/-- Reads a list of records. -/
def listOf (item : Metered α) : Metered (List α) := do
  let (_, size) ← ofReader listHead
  if size < 0 then ofReader (throw (.negativeListSize size)) else many item size.toNat

/-- Does a thing `n` times. -/
def times (act : Metered Unit) : Nat → Metered Unit
  | 0 => pure ()
  | n + 1 => do
    counted (fun _ => .item) act
    times act n

/-- Passes over a value of a type. -/
def skip : Nat → WireType → Metered Unit
  | 0, type => ofReader (Thrift.skip 0 type)
  | depth + 1, type =>
    match type with
    | .struct => fields (fun _ _ type => skip depth type) ()
    | .list | .set => do
      let (element, size) ← ofReader listHead
      times (skip depth element) size.toNat
    | .map => do
      let key ← ofReader wireType
      let value ← ofReader wireType
      let size ← ofReader int32
      times (do skip depth key; skip depth value) size.toInt.toNat
    | type => ofReader (Thrift.skip (depth + 1) type)

theorem erase_fieldsUpTo {step : σ → Int → WireType → Metered σ}
    {step' : σ → Int → WireType → Reader σ}
    (h : ∀ s id type, (step s id type).erase = step' s id type)
    (bound : Nat) (s : σ) : (fieldsUpTo step bound s).erase = Thrift.fieldsUpTo step' bound s := by
  induction bound generalizing s with
  | zero => rfl
  | succ bound ih =>
      rw [fieldsUpTo, Thrift.fieldsUpTo, turn, erase_bind, erase_counted, erase_bind,
        erase_ofReader, bind_assoc]
      congr 1
      funext head
      cases head with
      | none => rfl
      | some head =>
          obtain ⟨type, id⟩ := head
          simp [erase_pure, h, ih]

theorem erase_fields {step : σ → Int → WireType → Metered σ}
    {step' : σ → Int → WireType → Reader σ}
    (h : ∀ s id type, (step s id type).erase = step' s id type)
    (start : σ) : (fields step start).erase = Thrift.fields step' start := by
  refine StateT.ext fun bs => ?_
  show (fieldsUpTo step bs.length start).erase.run bs =
    (Thrift.fieldsUpTo step' bs.length start).run bs
  rw [erase_fieldsUpTo h]

theorem erase_many {item : Metered α} {item' : Reader α} (h : item.erase = item') (n : Nat) :
    (many item n).erase = Thrift.many item' n := by
  induction n with
  | zero => rfl
  | succ n ih => simp [many, Thrift.many, erase_pure, h, ih]

theorem erase_listOf {item : Metered α} {item' : Reader α} (h : item.erase = item') :
    (listOf item).erase = Thrift.listOf item' := by
  rw [listOf, Thrift.listOf, erase_bind, erase_ofReader]
  congr 1
  funext head
  dsimp only
  split
  · rfl
  · exact erase_many h _

theorem erase_times {act : Metered Unit} {act' : Reader Unit} (h : act.erase = act') (n : Nat) :
    (times act n).erase = Thrift.times act' n := by
  induction n with
  | zero => rfl
  | succ n ih => simp [times, Thrift.times, h, ih]

theorem erase_skip (depth : Nat) (type : WireType) :
    (skip depth type).erase = Thrift.skip depth type := by
  induction depth generalizing type with
  | zero => rfl
  | succ depth ih =>
      cases type with
      | struct => exact erase_fields (fun _ _ type => ih type) ()
      | list | set =>
          rw [skip, Thrift.skip, erase_bind, erase_ofReader]
          congr 1
          funext head
          exact erase_times (ih head.1) _
      | map =>
          have hentry (key value : WireType) :
              (do skip depth key; skip depth value : Metered Unit).erase =
                (do Thrift.skip depth key; Thrift.skip depth value : Reader Unit) := by
            rw [erase_bind, ih, ih]
          simp only [skip, Thrift.skip, erase_bind, erase_ofReader, erase_times (hentry _ _)]
      | _ => rfl

/-! ### Records -/

/-- Reads a field that holds no record, or passes over it. -/
def plain (k : RecordKind) (d : k.Draft) (id : Int) (type : WireType) : Metered k.Draft :=
  if (id, type) ∈ k.known then ofReader (k.step d id type)
  else do
    skip maxDepth type
    pure d

/-- Reads a record. -/
def record (k : RecordKind) (step : k.Draft → Int → WireType → Metered k.Draft) :
    Metered k.Record := do
  let d ← fields step k.start
  ofReader (k.finish d)

/-- Reads a tag. -/
def readTag : Metered Tag := record .tag (plain .tag)

/-- Reads a reference. -/
def readSpanRef : Metered SpanRef := record .spanRef (plain .spanRef)

/-- Reads one field of a log. -/
def logStep (d : LogDraft) (id : Int) (type : WireType) : Metered LogDraft :=
  match id, type with
  | 2, .list => return { d with fields := some (← listOf readTag) }
  | _, _ => plain .log d id type

/-- Reads a log. -/
def readLog : Metered Log := record .log logStep

/-- Reads one field of a span. -/
def spanStep (d : SpanDraft) (id : Int) (type : WireType) : Metered SpanDraft :=
  match id, type with
  | 6, .list => return { d with references := some (← listOf readSpanRef) }
  | 10, .list => return { d with tags := some (← listOf readTag) }
  | 11, .list => return { d with logs := some (← listOf readLog) }
  | _, _ => plain .span d id type

/-- Reads a span. -/
def readSpan : Metered Span := record .span spanStep

/-- Reads one field of a process. -/
def processStep (d : ProcessDraft) (id : Int) (type : WireType) : Metered ProcessDraft :=
  match id, type with
  | 2, .list => return { d with tags := some (← listOf readTag) }
  | _, _ => plain .process d id type

/-- Reads a process. -/
def readProcess : Metered ProcessInfo := record .process processStep

/-- Reads one field of a batch. -/
def batchStep (d : BatchDraft) (id : Int) (type : WireType) : Metered BatchDraft :=
  match id, type with
  | 1, .struct => return { d with process := some (← readProcess) }
  | 2, .list => return { d with spans := some (← listOf readSpan) }
  | _, _ => plain .batch d id type

/-- Reads one field of a record. -/
def step : (k : RecordKind) → k.Draft → Int → WireType → Metered k.Draft
  | .batch => batchStep
  | .process => processStep
  | .span => spanStep
  | .spanRef => plain .spanRef
  | .log => logStep
  | .tag => plain .tag

/-- Reads a record of a kind. -/
def read (k : RecordKind) : Metered k.Record := record k (step k)

theorem erase_plain (k : RecordKind) (d : k.Draft) (id : Int) (type : WireType) :
    (plain k d id type).erase = k.step d id type := by
  unfold plain
  split
  case isTrue hknown => rfl
  case isFalse hknown =>
    rw [k.step_of_not_mem_known d hknown, erase_bind, erase_skip]
    rfl

theorem erase_record {k : RecordKind} {step : k.Draft → Int → WireType → Metered k.Draft}
    (h : ∀ d id type, (step d id type).erase = k.step d id type) :
    (record k step).erase = k.read := by
  rw [record, erase_bind, erase_fields h, k.read_eq]
  rfl

/-- A field that is read and put into a draft. -/
theorem erase_put {m : Metered α} {r : Reader α} (h : m.erase = r) (put : α → β) :
    (m >>= fun x => pure (put x)).erase = r >>= fun x => pure (put x) := by
  simp only [erase_bind, erase_pure, h]

theorem erase_readTag : readTag.erase = Thrift.readTag := erase_record (erase_plain .tag)

theorem erase_logStep (d : LogDraft) (id : Int) (type : WireType) :
    (logStep d id type).erase = d.step id type := by
  unfold logStep
  split
  · exact erase_put (erase_listOf erase_readTag) _
  · exact erase_plain .log d id type

theorem erase_spanStep (d : SpanDraft) (id : Int) (type : WireType) :
    (spanStep d id type).erase = d.step id type := by
  unfold spanStep
  split
  · exact erase_put (erase_listOf (erase_record (erase_plain .spanRef))) _
  · exact erase_put (erase_listOf erase_readTag) _
  · exact erase_put (erase_listOf (erase_record erase_logStep)) _
  · exact erase_plain .span d id type

theorem erase_processStep (d : ProcessDraft) (id : Int) (type : WireType) :
    (processStep d id type).erase = d.step id type := by
  unfold processStep
  split
  · exact erase_put (erase_listOf erase_readTag) _
  · exact erase_plain .process d id type

theorem erase_batchStep (d : BatchDraft) (id : Int) (type : WireType) :
    (batchStep d id type).erase = d.step id type := by
  unfold batchStep
  split
  · exact erase_put (erase_record erase_processStep) _
  · exact erase_put (erase_listOf (erase_record erase_spanStep)) _
  · exact erase_plain .batch d id type

/-- The reader of a field without its tally. -/
theorem erase_step (k : RecordKind) (d : k.Draft) (id : Int) (type : WireType) :
    (step k d id type).erase = k.step d id type := by
  cases k with
  | batch => exact erase_batchStep d id type
  | process => exact erase_processStep d id type
  | span => exact erase_spanStep d id type
  | spanRef => exact erase_plain .spanRef d id type
  | log => exact erase_logStep d id type
  | tag => exact erase_plain .tag d id type

/-- **Without its tally a reader of records is the one that runs.** -/
theorem erase_read (k : RecordKind) : (read k).erase = k.read := erase_record (erase_step k)

end Metered

end SpanIntake.Thrift

/-
**Every wire span is accounted for.**

A wire span is either accepted or rejected, whatever its neighbours are.  The accepted spans keep
their order, and a rejection has the position of its span in the wire batch.  So a batch can be cut
anywhere: what comes of the second part stands behind what comes of the first, its positions moved
by the length of the first.

Main definitions:

* `Intake.Accounts` — an outcome accounts for wire spans;
* `Rejection.shift`, `Outcome.followedBy` — positions behind other spans, and outcomes joined;
* `Protobuf.Batch.Anonymous`, `Protobuf.Batch.FirstProcess` — which process a batch names.

Main results:

* `Intake.sift_append` — wire spans behind one another are sifted one part after the other;
* `Intake.mem_rejected_iff` — the rejections are those of the invalid wire spans;
* `Intake.accounts_of_batches` — **nothing is lost and nothing is invented**, in either format.
-/

import SpanIntake.Proofs.Intake.Accepted

set_option relaxedAutoImplicit false
set_option autoImplicit false

namespace SpanIntake

/-- A rejection as it is behind `k` further wire spans. -/
def Rejection.shift (k : Nat) (r : Rejection) : Rejection := { r with index := r.index + k }

/-- The outcome of `k` wire spans with that of further ones behind them. -/
def Outcome.followedBy (k : Nat) (o later : Outcome) : Outcome where
  data := { o.data with spans := o.data.spans ++ later.data.spans }
  rejected := o.rejected ++ later.rejected.map (Rejection.shift k)

namespace Intake

variable {α : Type} (lift : α → Except SpanError Span)

/-! ### Sifting one span after the other -/

theorem sift_cons_ok {x : α} {t : Span} (h : lift x = .ok t) (index : Nat) (xs : List α) :
    sift lift index (x :: xs) =
      (t :: (sift lift (index + 1) xs).1, (sift lift (index + 1) xs).2) := by
  rw [sift, h]

theorem sift_cons_error {x : α} {e : SpanError} (h : lift x = .error e) (index : Nat)
    (xs : List α) :
    sift lift index (x :: xs) =
      ((sift lift (index + 1) xs).1, ⟨index, e⟩ :: (sift lift (index + 1) xs).2) := by
  rw [sift, h]

/-- The accepted spans are those of the valid wire spans, in their order. -/
theorem accepted_eq_filterMap (index : Nat) (xs : List α) :
    (sift lift index xs).1 = xs.filterMap fun x => (lift x).toOption := by
  induction xs generalizing index with
  | nil => rfl
  | cons x xs ih =>
      cases hx : lift x with
      | ok t =>
          rw [sift_cons_ok lift hx, ih, List.filterMap_cons, hx]
          rfl
      | error e =>
          rw [sift_cons_error lift hx, ih, List.filterMap_cons, hx]
          rfl

/-- Positions count from the first one. -/
theorem sift_shift (index k : Nat) (xs : List α) :
    sift lift (index + k) xs =
      ((sift lift index xs).1, (sift lift index xs).2.map (Rejection.shift k)) := by
  induction xs generalizing index with
  | nil => rfl
  | cons x xs ih =>
      have hindex : index + k + 1 = index + 1 + k := by omega
      cases hx : lift x with
      | ok t => rw [sift_cons_ok lift hx, sift_cons_ok lift hx, hindex, ih]
      | error e =>
          rw [sift_cons_error lift hx, sift_cons_error lift hx, hindex, ih]
          rfl

/-- **Wire spans behind one another are sifted one part after the other.** -/
theorem sift_append (index : Nat) (xs ys : List α) :
    sift lift index (xs ++ ys) =
      ((sift lift index xs).1 ++ (sift lift (index + xs.length) ys).1,
        (sift lift index xs).2 ++ (sift lift (index + xs.length) ys).2) := by
  induction xs generalizing index with
  | nil => rfl
  | cons x xs ih =>
      have hindex : index + (x :: xs).length = index + 1 + xs.length := by
        rw [List.length_cons]
        omega
      rw [List.cons_append, hindex]
      cases hx : lift x with
      | ok t =>
          rw [sift_cons_ok lift hx, sift_cons_ok lift hx, ih]
          rfl
      | error e =>
          rw [sift_cons_error lift hx, sift_cons_error lift hx, ih]
          rfl

variable {lift}

/-- The rejections are those of the invalid wire spans, each at its place with its own error. -/
theorem mem_rejected_iff {index : Nat} {xs : List α} {r : Rejection} :
    r ∈ (sift lift index xs).2 ↔
      ∃ i x, xs[i]? = some x ∧ r.index = index + i ∧ lift x = .error r.error := by
  induction xs generalizing index with
  | nil => simp [sift]
  | cons x xs ih =>
      -- the head has the place 0, and a place in the tail is one more in the whole list
      have hplaces : (∃ i y, (x :: xs)[i]? = some y ∧ r.index = index + i ∧
            lift y = .error r.error) ↔
          (r.index = index ∧ lift x = .error r.error) ∨ r ∈ (sift lift (index + 1) xs).2 := by
        rw [ih]
        constructor
        · rintro ⟨i, y, hy, hindex, herror⟩
          cases i with
          | zero =>
              obtain rfl : x = y := by simpa using hy
              exact .inl ⟨hindex, herror⟩
          | succ i =>
              rw [List.getElem?_cons_succ] at hy
              exact .inr ⟨i, y, hy, by omega, herror⟩
        · rintro (⟨hindex, herror⟩ | ⟨i, y, hy, hindex, herror⟩)
          · exact ⟨0, x, rfl, hindex, herror⟩
          · exact ⟨i + 1, y, hy, by omega, herror⟩
      rw [hplaces]
      cases hx : lift x with
      | ok t => simp [sift_cons_ok lift hx]
      | error e =>
          obtain ⟨place, cause⟩ := r
          simp [sift_cons_error lift hx, eq_comm]

/-- Rejections stand in the order of their positions. -/
theorem pairwise_rejected (index : Nat) (xs : List α) :
    (sift lift index xs).2.Pairwise fun r later => r.index < later.index := by
  induction xs generalizing index with
  | nil => exact List.Pairwise.nil
  | cons x xs ih =>
      cases hx : lift x with
      | ok t =>
          rw [sift_cons_ok lift hx]
          exact ih (index + 1)
      | error e =>
          rw [sift_cons_error lift hx]
          refine List.pairwise_cons.2 ⟨fun later hlater => ?_, ih (index + 1)⟩
          obtain ⟨i, _, _, hindex, _⟩ := mem_rejected_iff.1 hlater
          show index < later.index
          omega

/-! ### Outcomes -/

/-- An outcome accounts for wire spans. -/
structure Accounts (lift : α → Except SpanError Span) (xs : List α) (o : Outcome) : Prop where
  /-- The accepted spans are those of the valid wire spans, in their order. -/
  accepted : o.data.spans = xs.filterMap fun x => (lift x).toOption
  /-- The rejections are those of the others, each at its place with its own error. -/
  rejected : ∀ r, r ∈ o.rejected ↔ ∃ x, xs[r.index]? = some x ∧ lift x = .error r.error
  /-- They stand in the order of their positions. -/
  increasing : o.rejected.Pairwise fun r later => r.index < later.index
  /-- There are as many of both together as wire spans. -/
  total : o.accepted + o.rejected.length = xs.length

theorem accounts_outcome (lift : α → Except SpanError Span) (process : ProcessInfo)
    (format : SourceFormat) (xs : List α) : Accounts lift xs (outcome lift process format xs) where
  accepted := accepted_eq_filterMap lift 0 xs
  rejected r := by
    show r ∈ (sift lift 0 xs).2 ↔ _
    rw [mem_rejected_iff]
    constructor
    · rintro ⟨i, x, hx, hindex, herror⟩
      have hi : r.index = i := by omega
      exact ⟨x, by rw [hi]; exact hx, herror⟩
    · rintro ⟨x, hx, herror⟩
      exact ⟨r.index, x, hx, by omega, herror⟩
  increasing := pairwise_rejected 0 xs
  total := length_sift lift 0 xs

theorem outcome_append (lift : α → Except SpanError Span) (process : ProcessInfo)
    (format : SourceFormat) (xs ys : List α) :
    outcome lift process format (xs ++ ys) =
      (outcome lift process format xs).followedBy xs.length (outcome lift process format ys) := by
  simp only [outcome, sift_append, sift_shift, Outcome.followedBy]

end Intake

/-! ### The process of a protobuf batch -/

namespace Protobuf.Batch

/-- No process is named, neither by the batch nor by any of its spans. -/
def Anonymous (b : Batch) : Prop := b.process = none ∧ ∀ s ∈ b.spans, s.process = none

/-- The first process that is named: the batch's own, or that of the first span that has one. -/
inductive FirstProcess (b : Batch) (p : ProcessInfo) : Prop
  | own (h : b.process = some p)
  | spans (h : b.process = none) (before : List Span) (s : Span) (after : List Span)
      (hspans : b.spans = before ++ s :: after) (hbefore : ∀ x ∈ before, x.process = none)
      (hs : s.process = some p)

end Protobuf.Batch

namespace Intake

theorem batchProcess?_eq_none_iff {b : Protobuf.Batch} :
    batchProcess? b = none ↔ b.Anonymous := by
  rw [batchProcess?, Option.or_eq_none_iff, List.findSome?_eq_none_iff]
  rfl

theorem batchProcess?_eq_some_iff {b : Protobuf.Batch} {p : Protobuf.ProcessInfo} :
    batchProcess? b = some p ↔ b.FirstProcess p := by
  rw [batchProcess?, Option.or_eq_some_iff, List.findSome?_eq_some_iff]
  constructor
  · rintro (hown | ⟨hnone, before, s, after, hspans, hs, hbefore⟩)
    · exact .own hown
    · exact .spans hnone before s after hspans hbefore hs
  · rintro (hown | ⟨hnone, before, s, after, hspans, hbefore, hs⟩)
    · exact .inl hown
    · exact .inr ⟨hnone, before, s, after, hspans, hs, hbefore⟩

/-- A batch is refused for its process only. -/
theorem ofProtobuf_eq_ok_iff {b : Protobuf.Batch} {o : Outcome} :
    ofProtobuf b = .ok o ↔ ∃ p, b.FirstProcess p ∧
      outcome spanOfProtobuf (processOfProtobuf p) .jaegerProto b.spans = o := by
  rw [ofProtobuf]
  cases hp : batchProcess? b with
  | none =>
      constructor
      · intro h
        cases h
      · rintro ⟨p, hfirst, _⟩
        rw [batchProcess?_eq_some_iff.2 hfirst] at hp
        cases hp
  | some p =>
      constructor
      · intro h
        exact ⟨p, batchProcess?_eq_some_iff.1 hp, Except.ok.inj h⟩
      · rintro ⟨q, hfirst, rfl⟩
        rw [batchProcess?_eq_some_iff.2 hfirst] at hp
        cases hp
        rfl

theorem ofProtobuf_eq_error_iff {b : Protobuf.Batch} :
    (∃ e, ofProtobuf b = .error e) ↔ b.Anonymous := by
  rw [← batchProcess?_eq_none_iff, ofProtobuf]
  cases batchProcess? b with
  | none => exact ⟨fun _ => rfl, fun _ => ⟨_, rfl⟩⟩
  | some p => simp

/-- The process that is named first stays so when spans are put behind. -/
theorem firstProcess_append {xs : List Protobuf.Span} {process : Option Protobuf.ProcessInfo}
    {p : Protobuf.ProcessInfo} (h : (⟨xs, process⟩ : Protobuf.Batch).FirstProcess p)
    (ys : List Protobuf.Span) : (⟨xs ++ ys, process⟩ : Protobuf.Batch).FirstProcess p := by
  rcases h with hown | ⟨hnone, before, s, after, hspans, hbefore, hs⟩
  · exact .own hown
  · refine .spans hnone before s (after ++ ys) ?_ hbefore hs
    show xs ++ ys = _
    rw [show xs = before ++ s :: after from hspans, List.append_assoc, List.cons_append]

theorem ofProtobuf_append {xs ys : List Protobuf.Span} {process : Option Protobuf.ProcessInfo}
    {o later : Outcome} (h : ofProtobuf ⟨xs, process⟩ = .ok o)
    (hlater : ofProtobuf ⟨ys, process⟩ = .ok later) :
    ofProtobuf ⟨xs ++ ys, process⟩ = .ok (o.followedBy xs.length later) := by
  obtain ⟨p, hp, rfl⟩ := ofProtobuf_eq_ok_iff.1 h
  obtain ⟨q, _, rfl⟩ := ofProtobuf_eq_ok_iff.1 hlater
  refine ofProtobuf_eq_ok_iff.2 ⟨p, firstProcess_append hp ys, ?_⟩
  rw [outcome_append]
  rfl

/-! ### Batches -/

/-- **Nothing is lost and nothing is invented.**  A Thrift batch always has an outcome, and a
protobuf batch has one unless no process is named in it; the outcome accounts for the wire spans
under the process that is named first, and that of two parts is the outcomes of the parts joined. -/
theorem accounts_of_batches :
    (∀ b : Thrift.Batch, Accounts spanOfThrift b.spans (ofThrift b) ∧
      (ofThrift b).data.process = processOfThrift b.process) ∧
    (∀ b : Protobuf.Batch, ((∃ e, ofProtobuf b = .error e) ↔ b.Anonymous) ∧
      (¬ b.Anonymous → ∃ p o, b.FirstProcess p ∧ ofProtobuf b = .ok o ∧
        Accounts spanOfProtobuf b.spans o ∧ o.data.process = processOfProtobuf p)) ∧
    (∀ process seqNo xs ys, ofThrift ⟨process, xs ++ ys, seqNo⟩ =
      (ofThrift ⟨process, xs, seqNo⟩).followedBy xs.length (ofThrift ⟨process, ys, seqNo⟩)) ∧
    (∀ process xs ys o later, ofProtobuf ⟨xs, process⟩ = .ok o →
      ofProtobuf ⟨ys, process⟩ = .ok later →
      ofProtobuf ⟨xs ++ ys, process⟩ = .ok (o.followedBy xs.length later)) := by
  refine ⟨fun b => ⟨accounts_outcome _ _ _ _, rfl⟩, fun b => ⟨ofProtobuf_eq_error_iff, ?_⟩,
    fun process seqNo xs ys => outcome_append _ _ _ xs ys,
    fun process xs ys o later => ofProtobuf_append⟩
  intro hnamed
  rw [← batchProcess?_eq_none_iff] at hnamed
  obtain ⟨p, hp⟩ := Option.ne_none_iff_exists'.1 hnamed
  have hfirst := batchProcess?_eq_some_iff.1 hp
  exact ⟨p, _, hfirst, ofProtobuf_eq_ok_iff.2 ⟨p, hfirst, rfl⟩, accounts_outcome _ _ _ _, rfl⟩

/-- A span that is rejected, and one that is accepted, each with a process of its own. -/
def lendingSpans : List Protobuf.Span := [
  { operationName := "no identifiers", process := some { serviceName := "first" } },
  { traceId := Bytes.bigEndian 16 7, spanId := Bytes.bigEndian 8 1, operationName := "op"
    startTime := some ⟨1, 0⟩, process := some { serviceName := "second" } }]

theorem accounts_of_batches_lendingSpans :
    ¬ (⟨lendingSpans, none⟩ : Protobuf.Batch).Anonymous ∧
    (∃ p o, (⟨lendingSpans, none⟩ : Protobuf.Batch).FirstProcess p ∧
      ofProtobuf ⟨lendingSpans, none⟩ = .ok o ∧ Accounts spanOfProtobuf lendingSpans o ∧
      o.data.process = processOfProtobuf p) ∧
    ∃ o later, ofProtobuf ⟨lendingSpans.take 1, none⟩ = .ok o ∧
      ofProtobuf ⟨lendingSpans.drop 1, none⟩ = .ok later ∧ o.accepted = 0 ∧ later.accepted = 1 ∧
      ofProtobuf ⟨lendingSpans.take 1 ++ lendingSpans.drop 1, none⟩ =
        .ok (o.followedBy (lendingSpans.take 1).length later) := by
  have hnamed : ¬ (⟨lendingSpans, none⟩ : Protobuf.Batch).Anonymous := by
    rw [← batchProcess?_eq_none_iff]
    decide
  refine ⟨hnamed, (accounts_of_batches.2.1 _).2 hnamed, _, _, rfl, rfl, by decide, by decide, ?_⟩
  exact accounts_of_batches.2.2.2 none (lendingSpans.take 1) (lendingSpans.drop 1) _ _ rfl rfl

end Intake

end SpanIntake

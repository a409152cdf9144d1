/-
**No reference is lost in an export.**

An exported span names the span that encloses it in a field of its own and links to the others that
it refers to.  A reference that says no more than that field is left out of the links, be it listed
once or more often.  One of another kind to the enclosing span stays, and so does one into another
trace.  Hence the export points to the same spans as the references do, as long as the enclosing
span is among them; reading a wire span sees to that, in either format.

Main definitions:

* `Span.SaysParent` — a reference says no more than which span encloses the span;
* `SpanReference.target`, `Otlp.Link.target` — the span that is pointed to;
* `Span.targets`, `Otlp.Span.targets` — the spans that a span points to;
* `Otlp.Tells` — an exported span tells of the references of a span.

Main results:

* `Otlp.targets_ofSpan_eq_iff` — an export points to the same spans exactly if the enclosing span is
  among the references;
* `Intake.tells_of_accepted` — **accepted spans are exported with all their references**.
-/

import Mathlib.Data.Set.Basic
import SpanIntake.Otlp.OfTrace
import SpanIntake.Proofs.Intake.Provenance

set_option relaxedAutoImplicit false
set_option autoImplicit false

namespace SpanIntake

/-! ### References and links -/

/-- A reference says no more than which span encloses the span. -/
def Span.SaysParent (s : Span) (r : SpanReference) : Prop :=
  r.kind = .childOf ∧ r.traceId = s.traceId ∧ s.parent = some r.spanId

instance (s : Span) (r : SpanReference) : Decidable (s.SaysParent r) :=
  inferInstanceAs (Decidable (_ ∧ _ ∧ _))

/-- The span that a reference points to, by trace and span id. -/
def SpanReference.target (r : SpanReference) : Bytes × Bytes := (r.traceId.bytes, r.spanId.bytes)

/-- The spans that the references of a span point to. -/
def Span.targets (s : Span) : Set (Bytes × Bytes) := {x | ∃ r ∈ s.references, r.target = x}

namespace Otlp

/-- The span that a link points to. -/
def Link.target (l : Link) : Bytes × Bytes := (l.traceId, l.spanId)

/-- The spans that an exported span points to: those it links to, and the one that encloses it. -/
def Span.targets (s : Span) : Set (Bytes × Bytes) :=
  {x | (∃ l ∈ s.links, l.target = x) ∨ s.parentSpanId ≠ [] ∧ (s.traceId, s.parentSpanId) = x}

variable {s : SpanIntake.Span}

theorem isParentReference_iff {r : SpanReference} :
    isParentReference s r = true ↔ s.SaysParent r := by
  rw [isParentReference, SpanIntake.Span.SaysParent, @eq_comm _ s.parent]
  simp only [Bool.and_eq_true, beq_iff_eq, and_assoc]

/-- The links are the other references in their order. -/
theorem map_target_links (s : SpanIntake.Span) :
    (links s).map Link.target =
      (s.references.filter fun r => ¬ s.SaysParent r).map SpanReference.target := by
  have hfilter : (s.references.filter fun r => !isParentReference s r) =
      s.references.filter fun r => ¬ s.SaysParent r := by
    refine List.filter_congr fun r _ => ?_
    rw [Bool.eq_iff_iff, Bool.not_eq_true', decide_eq_true_iff, ← isParentReference_iff,
      Bool.not_eq_true]
  rw [links, hfilter, List.map_map]
  rfl

theorem exists_link_iff {x : Bytes × Bytes} :
    (∃ l ∈ links s, l.target = x) ↔ ∃ r ∈ s.references, ¬ s.SaysParent r ∧ r.target = x := by
  rw [← List.mem_map, map_target_links, List.mem_map]
  simp only [List.mem_filter, decide_eq_true_iff, and_assoc]

/-! ### The enclosing span -/

theorem parentSpanId_of_some {p : SpanId} (h : s.parent = some p) :
    (ofSpan s).parentSpanId = p.bytes := by
  show (s.parent.map (·.bytes)).getD [] = p.bytes
  rw [h]
  rfl

/-- No span id is empty, so that the empty field says that no span encloses the span. -/
theorem parentSpanId_eq_nil_iff : (ofSpan s).parentSpanId = [] ↔ s.parent = none := by
  constructor
  · intro hnil
    cases hparent : s.parent with
    | none => rfl
    | some p =>
        rw [parentSpanId_of_some hparent] at hnil
        have hsize := p.size_eq
        rw [hnil] at hsize
        cases hsize
  · intro hnone
    show (s.parent.map (·.bytes)).getD [] = []
    rw [hnone]
    rfl

theorem mem_targets_ofSpan_iff {x : Bytes × Bytes} :
    x ∈ (ofSpan s).targets ↔ (∃ r ∈ s.references, ¬ s.SaysParent r ∧ r.target = x) ∨
      ∃ p, s.parent = some p ∧ (s.traceId.bytes, p.bytes) = x := by
  refine or_congr exists_link_iff ?_
  cases hparent : s.parent with
  | none =>
      constructor
      · rintro ⟨hne, _⟩
        exact absurd (parentSpanId_eq_nil_iff.2 hparent) hne
      · rintro ⟨p, hp, _⟩
        cases hp
  | some p =>
      have hne : (ofSpan s).parentSpanId ≠ [] := by
        rw [Ne, parentSpanId_eq_nil_iff, hparent]
        exact Option.some_ne_none p
      rw [parentSpanId_of_some hparent] at hne ⊢
      constructor
      · rintro ⟨_, hx⟩
        exact ⟨p, rfl, hx⟩
      · rintro ⟨q, hq, hx⟩
        obtain rfl := Option.some.inj hq
        exact ⟨hne, hx⟩

/-- **An export points to the same spans as the references exactly if the enclosing span is among
them.** -/
theorem targets_ofSpan_eq_iff :
    (ofSpan s).targets = s.targets ↔
      ∀ p, s.parent = some p → (s.traceId.bytes, p.bytes) ∈ s.targets := by
  constructor
  · intro heq p hp
    rw [← heq, mem_targets_ofSpan_iff]
    exact .inr ⟨p, hp, rfl⟩
  · intro hparent
    ext x
    rw [mem_targets_ofSpan_iff]
    constructor
    · rintro (⟨r, hr, _, hx⟩ | ⟨p, hp, rfl⟩)
      · exact ⟨r, hr, hx⟩
      · exact hparent p hp
    · rintro ⟨r, hr, rfl⟩
      -- what the links leave out is told by the field
      by_cases hsays : s.SaysParent r
      · obtain ⟨_, htrace, hspan⟩ := hsays
        refine .inr ⟨r.spanId, hspan, ?_⟩
        rw [← htrace]
        rfl
      · exact .inl ⟨r, hr, hsays, rfl⟩

/-! ### Accepted spans -/

/-- An exported span tells of the references of a span. -/
structure Tells (s : SpanIntake.Span) (x : Span) : Prop where
  /-- The enclosing span is named, and it is one of those referred to. -/
  parent_some : ∀ p, s.parent = some p →
    x.parentSpanId = p.bytes ∧ ⟨s.traceId, p, .childOf⟩ ∈ s.references
  /-- None is named where there is none. -/
  parent_none : x.parentSpanId = [] ↔ s.parent = none
  /-- The links are the references that say more than that, in their order. -/
  links : x.links.map Link.target =
    (s.references.filter fun r => ¬ s.SaysParent r).map SpanReference.target
  /-- Both point to the same spans. -/
  targets : x.targets = s.targets

end Otlp

namespace Intake

/-- **Accepted spans are exported with all their references**, and with nothing that is none. -/
theorem tells_of_accepted {t : Span} (h : Accepted t) : Otlp.Tells t (Otlp.ofSpan t) := by
  have hparent : ∀ p, t.parent = some p → ⟨t.traceId, p, .childOf⟩ ∈ t.references := by
    intro p hp
    have hparented := h.consistent.parent
    rw [hp] at hparented
    exact parented_some_iff.1 hparented
  refine ⟨fun p hp => ⟨Otlp.parentSpanId_of_some hp, hparent p hp⟩, Otlp.parentSpanId_eq_nil_iff,
    Otlp.map_target_links t, Otlp.targets_ofSpan_eq_iff.2 ?_⟩
  intro p hp
  exact ⟨_, hparent p hp, rfl⟩

/-- A Thrift span that names the span 9, lists it twice as the enclosing one and once as a cause,
and lists another enclosing span and the span 9 of another trace. -/
def meshedSpan : Thrift.Span where
  traceIdLow := 7
  traceIdHigh := 0
  spanId := 1
  parentSpanId := 9
  operationName := "op"
  references := some [⟨1, 7, 0, 9⟩, ⟨0, 7, 0, 2⟩, ⟨0, 7, 0, 9⟩, ⟨0, 8, 0, 9⟩, ⟨0, 7, 0, 9⟩]
  flags := 1
  startTime := 5
  duration := 6
  tags := none
  logs := none

/-- A protobuf span whose only reference goes to another trace. -/
def detachedSpan : Protobuf.Span :=
  { traceId := Bytes.bigEndian 16 7, spanId := Bytes.bigEndian 8 1, operationName := "op"
    references := [⟨Bytes.bigEndian 16 8, Bytes.bigEndian 8 2, 0⟩], startTime := some ⟨1, 0⟩ }

theorem tells_of_accepted_meshedSpan :
    (∃ t, Accepted t ∧ spanOfThrift meshedSpan = .ok t ∧ t.references.length = 5 ∧
      (Otlp.ofSpan t).links.length = 3 ∧ Otlp.Tells t (Otlp.ofSpan t)) ∧
    (∃ t, Accepted t ∧ spanOfProtobuf detachedSpan = .ok t ∧ t.parent = none ∧
      (Otlp.ofSpan t).links.length = 1 ∧ Otlp.Tells t (Otlp.ofSpan t)) := by
  have hmeshed : ∃ t, spanOfThrift meshedSpan = .ok t ∧ t.references.length = 5 ∧
      (Otlp.ofSpan t).links.length = 3 := ⟨_, rfl, by decide, by decide⟩
  have hdetached : ∃ t, spanOfProtobuf detachedSpan = .ok t ∧ t.parent = none ∧
      (Otlp.ofSpan t).links.length = 1 := ⟨_, rfl, by decide, by decide⟩
  obtain ⟨t, ht, hreferences, hlinks⟩ := hmeshed
  obtain ⟨u, hu, hparent, hlink⟩ := hdetached
  exact ⟨⟨t, .thrift ht, ht, hreferences, hlinks, tells_of_accepted (.thrift ht)⟩,
    ⟨u, .protobuf hu, hu, hparent, hlink, tells_of_accepted (.protobuf hu)⟩⟩

end Intake

end SpanIntake

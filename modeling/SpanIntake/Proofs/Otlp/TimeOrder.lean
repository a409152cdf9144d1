/-
**Beginnings and ends as they are exported.**

A span ends no earlier than it begins, but its two times are exported one by one, each as the
nanoseconds since the epoch, or as zero where they are negative or do not fit a signed 64-bit word.
Zero in place of a beginning does no harm to their order, and neither does zero in place of both.
What is left is a span that begins within that word and ends beyond it: its end is exported as zero
alone, and seems to lie before its beginning.

Main definitions:

* `Instant.lastExported` — the last count of nanoseconds that is exported as it is;
* `Span.OutlastsExport` — the span begins within the exported range, behind the epoch, and ends
  beyond it.

Main results:

* `Instant.exportNanos_le_exportNanos` — the order of two instants in the exported range;
* `Intake.exported_order_of_accepted` — **the order is kept but for spans that outlast the exported
  range**, in either format;
* `Intake.exported_order_lateSpan` — such a span exists.
-/

import SpanIntake.Otlp.OfTrace
import SpanIntake.Proofs.Intake.Consistent

set_option relaxedAutoImplicit false
set_option autoImplicit false

namespace SpanIntake

/-! ### Instants -/

namespace Instant

/-- The last count of nanoseconds that is exported as it is, 2262-04-11T23:47:16.854775807. -/
def lastExported : Int := Int64.maxValue.toInt

theorem exportNanos_of_neg {t : Instant} (h : t.toNanos < 0) : t.exportNanos = 0 :=
  if_neg fun hrange => absurd hrange.1 (Int.not_le.2 h)

theorem exportNanos_of_lt {t : Instant} (h : lastExported < t.toNanos) : t.exportNanos = 0 :=
  if_neg fun hrange => absurd hrange.2 (Int.not_le.2 h)

theorem toNat_exportNanos {t : Instant} (hmin : 0 ≤ t.toNanos) (hmax : t.toNanos ≤ lastExported) :
    (t.exportNanos.toNat : Int) = t.toNanos := by
  have hlast : lastExported = 9223372036854775807 := rfl
  have hexport : t.exportNanos = UInt64.ofNat t.toNanos.toNat := if_pos ⟨hmin, hmax⟩
  have hfits : t.toNanos.toNat < UInt64.size := by
    have hsize : UInt64.size = 18446744073709551616 := rfl
    omega
  rw [hexport, UInt64.toNat_ofNat_of_lt' hfits]
  exact Int.toNat_of_nonneg hmin

/-- An instant no later than another is exported no later, unless the other lies beyond the exported
range: before the epoch the earlier one is exported as zero. -/
theorem exportNanos_le_exportNanos {t u : Instant} (h : t.toNanos ≤ u.toNanos)
    (hmax : u.toNanos ≤ lastExported) : t.exportNanos ≤ u.exportNanos := by
  rcases Int.lt_or_le t.toNanos 0 with hneg | hnonneg
  · rw [exportNanos_of_neg hneg]
    exact UInt64.zero_le
  · have ht := toNat_exportNanos hnonneg (Int.le_trans h hmax)
    have hu := toNat_exportNanos (Int.le_trans hnonneg h) hmax
    rw [UInt64.le_iff_toNat_le]
    omega

end Instant

/-! ### Spans -/

/-- The span begins within the exported range, behind the epoch, and ends beyond it. -/
structure Span.OutlastsExport (s : Span) : Prop where
  pos : 0 < s.startTime.toNanos
  start_le : s.startTime.toNanos ≤ Instant.lastExported
  lt_end : Instant.lastExported < s.endTime.toNanos

namespace Otlp

theorem startTime_le_endTime {s : SpanIntake.Span} (hs : s.Consistent) (h : ¬ s.OutlastsExport) :
    (ofSpan s).startTime ≤ (ofSpan s).endTime := by
  show s.startTime.exportNanos ≤ s.endTime.exportNanos
  rcases Int.lt_or_le Instant.lastExported s.endTime.toNanos with hlate | hend
  · -- the end is exported as zero, and so is the beginning
    suffices hzero : s.startTime.exportNanos = 0 by
      rw [hzero]
      exact UInt64.zero_le
    rcases Int.lt_or_le Instant.lastExported s.startTime.toNanos with hstart | hstart
    · exact Instant.exportNanos_of_lt hstart
    · have hnonpos : s.startTime.toNanos ≤ 0 := by
        rw [← Int.not_lt]
        exact fun hpos => h ⟨hpos, hstart, hlate⟩
      rcases Int.lt_or_le s.startTime.toNanos 0 with hneg | hnonneg
      · exact Instant.exportNanos_of_neg hneg
      · have hnanos := Instant.toNat_exportNanos hnonneg hstart
        exact UInt64.toNat_inj.1 (show _ = 0 by omega)
  · exact Instant.exportNanos_le_exportNanos hs.ordered hend

theorem lost_of_outlastsExport {s : SpanIntake.Span} (h : s.OutlastsExport) :
    (ofSpan s).endTime = 0 ∧ 0 < (ofSpan s).startTime := by
  refine ⟨Instant.exportNanos_of_lt h.lt_end, ?_⟩
  show 0 < s.startTime.exportNanos
  have hnanos := Instant.toNat_exportNanos (Int.le_of_lt h.pos) h.start_le
  have hpos := h.pos
  rw [UInt64.lt_iff_toNat_lt]
  show 0 < s.startTime.exportNanos.toNat
  omega

end Otlp

namespace Intake

/-- **An accepted span is exported with its beginning no later than its end, unless it outlasts the
exported range**; then its end is exported as zero, and its beginning is not. -/
theorem exported_order_of_accepted {t : Span} (h : Accepted t) :
    (¬ t.OutlastsExport → (Otlp.ofSpan t).startTime ≤ (Otlp.ofSpan t).endTime) ∧
      (t.OutlastsExport → (Otlp.ofSpan t).endTime = 0 ∧ 0 < (Otlp.ofSpan t).startTime) :=
  ⟨Otlp.startTime_le_endTime h.consistent, Otlp.lost_of_outlastsExport⟩

/-- A Thrift span of one microsecond that begins in the last microsecond of the exported range. -/
def lateSpan : Thrift.Span where
  traceIdLow := 7
  traceIdHigh := 0
  spanId := 1
  parentSpanId := 0
  operationName := "op"
  references := none
  flags := 1
  startTime := 9223372036854775
  duration := 1
  tags := none
  logs := none

/-- A protobuf span that lasts from before the epoch to beyond the exported range. -/
def longSpan : Protobuf.Span :=
  { traceId := Bytes.bigEndian 16 7, spanId := Bytes.bigEndian 8 1
    startTime := some ⟨-1, 999999999⟩, duration := some ⟨9223372037, 0⟩ }

/-- **The exported order is not always kept.** -/
theorem exported_order_lateSpan : ∃ t, spanOfThrift lateSpan = .ok t ∧
    ¬ (Otlp.ofSpan t).startTime ≤ (Otlp.ofSpan t).endTime :=
  ⟨_, rfl, by decide⟩

theorem exported_order_of_accepted_lateSpan :
    (∃ t, Accepted t ∧ spanOfThrift lateSpan = .ok t ∧ t.OutlastsExport ∧
      (Otlp.ofSpan t).endTime = 0 ∧ 0 < (Otlp.ofSpan t).startTime) ∧
    (∃ t, Accepted t ∧ spanOfProtobuf longSpan = .ok t ∧ ¬ t.OutlastsExport ∧
      (Otlp.ofSpan t).startTime ≤ (Otlp.ofSpan t).endTime) := by
  have hlate : ∃ t, spanOfThrift lateSpan = .ok t ∧ t.OutlastsExport :=
    ⟨_, rfl, by decide, by decide, by decide⟩
  have hlong : ∃ t, spanOfProtobuf longSpan = .ok t ∧ ¬ 0 < t.startTime.toNanos :=
    ⟨_, rfl, by decide⟩
  obtain ⟨t, ht, houtlasts⟩ := hlate
  obtain ⟨u, hu, hstart⟩ := hlong
  have hwithin : ¬ u.OutlastsExport := fun h => hstart h.pos
  refine ⟨⟨t, .thrift ht, ht, houtlasts, ?_⟩, ⟨u, .protobuf hu, hu, hwithin, ?_⟩⟩
  · exact (exported_order_of_accepted (.thrift ht)).2 houtlasts
  · exact (exported_order_of_accepted (.protobuf hu)).1 hwithin

end Intake

end SpanIntake

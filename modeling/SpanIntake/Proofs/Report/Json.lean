/-
**Batches printed as JSON.**

A batch is printed on one line, whatever its texts hold, and the line says all there is to say of
it: reading it gives the batch back.  Doubles are left out here: one that is not finite has no
numeral, and the reader of numerals rounds twice, so that it may miss one that is.

Main results:

* `Report.json_readable` — **a batch without doubles is printed on one line and read back from it**.
-/

import SpanIntake.Proofs.Trace.JsonForm
import SpanIntake.Report.Human

set_option relaxedAutoImplicit false
set_option autoImplicit false

namespace SpanIntake.Report

/-- **A batch without doubles is printed on one line and read back from it.** -/
theorem json_readable {d : TraceData} (h : Intake.Produced d) (hdoubles : d.NoDoubles) :
    (∀ c ∈ (json d).toList, 32 ≤ c.toNat) ∧ TraceData.read? (json d) = some d := by
  constructor
  · rw [json, Json.write, String.toList_ofList]
    exact (TraceData.wellFormed_toJson hdoubles).printable
  · exact TraceData.read?_write h.consistent hdoubles

/-- A batch with texts that need escapes and letters beyond ASCII, the least and the greatest
integer, a byte string, and times at both ends of the range. -/
def wideBatch : Thrift.Batch where
  process := ⟨"\"\\\n\u0001é😀", some [{ key := "", vType := 0, vStr := some "\u007f\u001b" }]⟩
  seqNo := none
  spans := [
    { traceIdLow := 1, traceIdHigh := 0, spanId := -1, parentSpanId := 5, operationName := "\t"
      references := some [⟨1, 2, 3, 4⟩, ⟨7, 2, 3, 4⟩], flags := 0
      startTime := -8334601228799999999, duration := 62167219200000000
      tags := some [
        { key := "least", vType := 3, vLong := some (-9223372036854775808) },
        { key := "greatest", vType := 3, vLong := some 9223372036854775807 },
        { key := "bytes", vType := 4, vBinary := some [0, 255] },
        { key := "error", vType := 2, vBool := some true }]
      logs := some [⟨8210266876799999000, []⟩] },
    { traceIdLow := 1, traceIdHigh := 1, spanId := 2, parentSpanId := 0, operationName := ""
      references := none, flags := 0, startTime := 253402300800000000, duration := 5000
      tags := none, logs := none }]

theorem json_readable_wideBatch :
    Intake.Produced (Intake.ofThrift wideBatch).data ∧
      (Intake.ofThrift wideBatch).data.NoDoubles ∧
      (Intake.ofThrift wideBatch).data.spans.length = 2 ∧
      (∀ c ∈ (json (Intake.ofThrift wideBatch).data).toList, 32 ≤ c.toNat) ∧
      TraceData.read? (json (Intake.ofThrift wideBatch).data) =
        some (Intake.ofThrift wideBatch).data := by
  have hproduced : Intake.Produced (Intake.ofThrift wideBatch).data := .thrift wideBatch
  have hdoubles : (Intake.ofThrift wideBatch).data.NoDoubles := by decide +kernel
  exact ⟨hproduced, hdoubles, by decide +kernel, json_readable hproduced hdoubles⟩

end SpanIntake.Report

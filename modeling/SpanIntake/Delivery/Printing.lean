/-
**The printing consumer.**

Prints each batch, for people or as a line of JSON, and accepts all its spans.

Main definitions

* `Printing.text` — what is printed of a batch;
* `Printing.consumer` — the consumer, whose state is what was printed.
-/

import SpanIntake.Delivery.Consumer
import SpanIntake.Report.Human

set_option relaxedAutoImplicit false
set_option autoImplicit false

namespace SpanIntake.Printing

/-- What is printed of a batch, without a newline at its end. -/
def text (json colours : Bool) (d : TraceData) : String :=
  if json then Report.json d else Report.human colours d

/-- A consumer that prints what it takes. -/
def consumer (json colours : Bool) : Consumer String :=
  ⟨fun printed d => .now (printed ++ text json colours d ++ "\n") (.ok d.spans.length) []⟩

end SpanIntake.Printing

/-
**Of tags with one key the last counts.**

Tags are read into a map before anything is looked up in it, so that of a span, of a process and of
an event no more can be seen than the last tag of every key.  Status, kind and message are lifted
out of that map: an earlier tag is gone when they are read, even if the later one cannot be
interpreted.

Main results:

* `Attributes.ofList_eq_of_sameLast` — pairs with the same last values are one map;
* `Intake.lastCounts_thriftSpan`, `Intake.lastCounts_protobufSpan` and their like — a span is
  decided by the last tag of every key, and so are its events;
* `Intake.lastCounts_tags` — **wherever tags stand, the last tag of every key decides**.
-/

import SpanIntake.Intake.OfProtobuf
import SpanIntake.Intake.OfThrift
import SpanIntake.Proofs.Keyed.Last
import SpanIntake.Proofs.Trace.Attributes

set_option relaxedAutoImplicit false
set_option autoImplicit false

namespace SpanIntake

open Keyed

/-! ### Maps -/

/-- A key has the value of the last pair with that key. -/
theorem Attributes.get?_ofList_eq_last? (xs : List (String × AttributeValue)) (key : String) :
    (ofList xs).get? key = (last? Prod.fst key xs).map Prod.snd :=
  get?_ofList xs key

/-- **Pairs with the same last values are one map.** -/
theorem Attributes.ofList_eq_of_sameLast {xs ys : List (String × AttributeValue)}
    (h : SameLast Prod.fst xs ys) : ofList xs = ofList ys := by
  refine ext_get? fun key => ?_
  rw [get?_ofList_eq_last?, get?_ofList_eq_last?, h key]

namespace Intake

theorem thriftAttributes_eq {ts us : List Thrift.Tag} (h : SameLast Thrift.Tag.key ts us) :
    thriftAttributes ts = thriftAttributes us :=
  Attributes.ofList_eq_of_sameLast (h.map (f := fun t => (t.key, thriftValue t)) fun _ => rfl)

theorem protobufAttributes_eq {ms ns : List Protobuf.KeyValue}
    (h : SameLast Protobuf.KeyValue.key ms ns) : protobufAttributes ms = protobufAttributes ns :=
  Attributes.ofList_eq_of_sameLast (h.map (f := fun m => (m.key, protobufValue m)) fun _ => rfl)

/-- One item of a list that is translated item by item. -/
theorem mapM_eq_of_eq {α β : Type} {f : α → Except SpanError β} {x y : α} (h : f x = f y)
    (front behind : List α) : (front ++ x :: behind).mapM f = (front ++ y :: behind).mapM f := by
  rw [List.mapM_append, List.mapM_append, List.mapM_cons, List.mapM_cons, h]

/-! ### Thrift -/

theorem lastCounts_thriftProcess (p : Thrift.ProcessInfo) :
    LastCounts Thrift.Tag.key fun ts => processOfThrift { p with tags := some ts } := by
  refine .of_same fun ts us h => ?_
  simp only [processOfThrift, Option.getD_some, thriftAttributes_eq h]

theorem lastCounts_thriftLog (l : Thrift.Log) :
    LastCounts Thrift.Tag.key fun ts => eventOfThrift { l with fields := ts } := by
  refine .of_same fun ts us h => ?_
  simp only [eventOfThrift, thriftAttributes_eq h]

theorem lastCounts_thriftSpan (s : Thrift.Span) :
    LastCounts Thrift.Tag.key fun ts => spanOfThrift { s with tags := some ts } := by
  refine .of_same fun ts us h => ?_
  simp only [spanOfThrift, Option.getD_some, thriftAttributes_eq h]

theorem lastCounts_thriftSpanLog (s : Thrift.Span) (front : List Thrift.Log) (l : Thrift.Log)
    (behind : List Thrift.Log) :
    LastCounts Thrift.Tag.key fun ts =>
      spanOfThrift { s with logs := some (front ++ { l with fields := ts } :: behind) } := by
  refine .of_same fun ts us h => ?_
  have hevents := mapM_eq_of_eq ((lastCounts_thriftLog l).same ts us h) front behind
  simp only [spanOfThrift, Option.getD_some, hevents]

/-! ### Protobuf -/

theorem lastCounts_protobufProcess (p : Protobuf.ProcessInfo) :
    LastCounts Protobuf.KeyValue.key fun ms => processOfProtobuf { p with tags := ms } := by
  refine .of_same fun ms ns h => ?_
  simp only [processOfProtobuf, protobufAttributes_eq h]

theorem lastCounts_protobufLog (l : Protobuf.Log) :
    LastCounts Protobuf.KeyValue.key fun ms => eventOfProtobuf { l with fields := ms } := by
  refine .of_same fun ms ns h => ?_
  simp only [eventOfProtobuf, protobufAttributes_eq h]

theorem lastCounts_protobufSpan (s : Protobuf.Span) :
    LastCounts Protobuf.KeyValue.key fun ms => spanOfProtobuf { s with tags := ms } := by
  refine .of_same fun ms ns h => ?_
  simp only [spanOfProtobuf, protobufAttributes_eq h]

theorem lastCounts_protobufSpanLog (s : Protobuf.Span) (front : List Protobuf.Log)
    (l : Protobuf.Log) (behind : List Protobuf.Log) :
    LastCounts Protobuf.KeyValue.key fun ms =>
      spanOfProtobuf { s with logs := front ++ { l with fields := ms } :: behind } := by
  refine .of_same fun ms ns h => ?_
  have hevents := mapM_eq_of_eq ((lastCounts_protobufLog l).same ms ns h) front behind
  simp only [spanOfProtobuf, hevents]

/-! ### Both formats -/

/-- **Wherever tags stand, the last tag of every key decides**: in a process, in an event, in a span
and in each of the events of a span. -/
theorem lastCounts_tags :
    ((∀ s : Thrift.Span,
        LastCounts Thrift.Tag.key fun ts => spanOfThrift { s with tags := some ts }) ∧
      (∀ (s : Thrift.Span) (front : List Thrift.Log) (l : Thrift.Log) (behind : List Thrift.Log),
        LastCounts Thrift.Tag.key fun ts =>
          spanOfThrift { s with logs := some (front ++ { l with fields := ts } :: behind) }) ∧
      (∀ p : Thrift.ProcessInfo,
        LastCounts Thrift.Tag.key fun ts => processOfThrift { p with tags := some ts }) ∧
      ∀ l : Thrift.Log,
        LastCounts Thrift.Tag.key fun ts => eventOfThrift { l with fields := ts }) ∧
    (∀ s : Protobuf.Span,
      LastCounts Protobuf.KeyValue.key fun ms => spanOfProtobuf { s with tags := ms }) ∧
    (∀ (s : Protobuf.Span) (front : List Protobuf.Log) (l : Protobuf.Log)
        (behind : List Protobuf.Log),
      LastCounts Protobuf.KeyValue.key fun ms =>
        spanOfProtobuf { s with logs := front ++ { l with fields := ms } :: behind }) ∧
    (∀ p : Protobuf.ProcessInfo,
      LastCounts Protobuf.KeyValue.key fun ms => processOfProtobuf { p with tags := ms }) ∧
    ∀ l : Protobuf.Log,
      LastCounts Protobuf.KeyValue.key fun ms => eventOfProtobuf { l with fields := ms } :=
  ⟨⟨lastCounts_thriftSpan, lastCounts_thriftSpanLog, lastCounts_thriftProcess,
      lastCounts_thriftLog⟩,
    lastCounts_protobufSpan, lastCounts_protobufSpanLog, lastCounts_protobufProcess,
    lastCounts_protobufLog⟩

/-- A tag with a code that can be interpreted. -/
def codeTag : Thrift.Tag := { key := "status.code", vType := 3, vLong := some 5 }

/-- A tag with a text. -/
def textTag (key text : String) : Thrift.Tag := { key, vType := 0, vStr := some text }

/-- A span without tags. -/
def untaggedSpan : Thrift.Span where
  traceIdLow := 7
  traceIdHigh := 0
  spanId := 1
  parentSpanId := 0
  operationName := "op"
  references := none
  flags := 1
  startTime := 5
  duration := 6
  tags := none
  logs := none

/-- The first code is gone although the second one cannot be interpreted, which stays. -/
theorem lastCounts_tags_recodedSpan :
    (∃ y ∈ [textTag "span.kind" "server", textTag "status.code" "?"], y.key = codeTag.key) ∧
    spanOfThrift { untaggedSpan with
        tags := some [codeTag, textTag "span.kind" "server", textTag "status.code" "?"] } =
      spanOfThrift { untaggedSpan with
        tags := some [textTag "span.kind" "server", textTag "status.code" "?"] } ∧
    ∃ t, spanOfThrift { untaggedSpan with
        tags := some [textTag "span.kind" "server", textTag "status.code" "?"] } = .ok t ∧
      t.status = ⟨.ok, ""⟩ ∧ t.kind = .server ∧
      t.attributes.get? "status.code" = some (.text "?") := by
  have hagain : ∃ y ∈ [textTag "span.kind" "server", textTag "status.code" "?"],
      y.key = codeTag.key := ⟨textTag "status.code" "?", by simp, rfl⟩
  exact ⟨hagain, (lastCounts_tags.1.1 untaggedSpan).drop [] codeTag _ hagain, _, rfl, by decide,
    by decide, by decide⟩

end Intake

end SpanIntake

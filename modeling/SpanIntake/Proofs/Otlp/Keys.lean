/-
**Keys of exported attributes.**

The protocol wants the keys of an attribute list to be distinct.  Nearly all lists are the entries
of a map, so that they have it by construction, and the scope has one attribute only.  The list of
the resource is put together: the name of the service stands in front of the attributes of the
process, under the key `service.name`, and nothing keeps a client from sending a tag with that key.
Then it occurs twice; no other key ever does.

Main definitions:

* `Otlp.DistinctKeys` — no key of an attribute list occurs twice;
* `Otlp.Request.attributeLists` — all attribute lists of a request;
* `Otlp.Request.DistinctKeys` — each of them has distinct keys;
* `Intake.TaggedWith` — trace data of a wire batch, with the keys of the tags of its process.

Main results:

* `Otlp.count_resourceAttributes` — how often a key occurs in the list of the resource;
* `Otlp.distinctKeys_ofTrace_iff` — keys are distinct unless the process has an attribute
  `service.name`;
* `Intake.Produced.exists_taggedWith` — all trace data of wire batches has such keys;
* `Intake.distinctKeys_iff_of_taggedWith` — **keys are distinct exactly if no tag of the process has
  the key `service.name`**, in either format;
* `Intake.not_distinctKeys_of_produced` — such a tag can be sent.
-/

import SpanIntake.Otlp.OfTrace
import SpanIntake.Proofs.Intake.Consistent
import SpanIntake.Proofs.Intake.Sifting

set_option relaxedAutoImplicit false
set_option autoImplicit false

namespace SpanIntake

namespace Otlp

/-! ### Attribute lists -/

/-- No key occurs twice. -/
def DistinctKeys (xs : List KeyValue) : Prop := (xs.map Prod.fst).Nodup

instance (xs : List KeyValue) : Decidable (DistinctKeys xs) :=
  inferInstanceAs (Decidable (List.Nodup _))

/-- The attributes of a span, and those of each of its events. -/
def Span.attributeLists (s : Span) : List (List KeyValue) :=
  s.attributes :: s.events.map (·.attributes)

/-- The attributes of a scope, and those in each of its spans. -/
def ScopeSpans.attributeLists (s : ScopeSpans) : List (List KeyValue) :=
  s.scope.attributes :: s.spans.flatMap Span.attributeLists

/-- The attribute lists of a request but for those of its resources. -/
def Request.innerLists (q : Request) : List (List KeyValue) :=
  q.resources.flatMap fun r => r.scopes.flatMap ScopeSpans.attributeLists

/-- The attribute lists of a request. -/
def Request.attributeLists (q : Request) : List (List KeyValue) :=
  q.resources.map (·.resource) ++ q.innerLists

/-- All attribute lists of a request have distinct keys. -/
def Request.DistinctKeys (q : Request) : Prop := ∀ xs ∈ q.attributeLists, Otlp.DistinctKeys xs

instance (q : Request) : Decidable q.DistinctKeys :=
  inferInstanceAs (Decidable (∀ xs ∈ q.attributeLists, _))

/-! ### Exported lists -/

theorem distinctKeys_entries (a : Attributes) : DistinctKeys a.entries := a.nodup_keys

theorem distinctKeys_ofSpan (s : SpanIntake.Span) :
    ∀ xs ∈ (ofSpan s).attributeLists, DistinctKeys xs := by
  intro xs hxs
  rcases List.mem_cons.1 hxs with rfl | hxs
  · exact distinctKeys_entries s.attributes
  · obtain ⟨x, hx, rfl⟩ := List.mem_map.1 hxs
    obtain ⟨e, _, rfl⟩ := List.mem_map.1 hx
    exact distinctKeys_entries e.attributes

theorem distinctKeys_innerLists (d : TraceData) :
    ∀ xs ∈ (ofTrace d).innerLists, DistinctKeys xs := by
  intro xs hxs
  obtain ⟨r, hr, hxs⟩ := List.mem_flatMap.1 hxs
  obtain rfl := List.mem_singleton.1 hr
  obtain ⟨s, hs, hxs⟩ := List.mem_flatMap.1 hxs
  obtain rfl := List.mem_singleton.1 hs
  rcases List.mem_cons.1 hxs with rfl | hxs
  · exact List.pairwise_singleton _ _
  · obtain ⟨x, hx, hxs⟩ := List.mem_flatMap.1 hxs
    obtain ⟨t, _, rfl⟩ := List.mem_map.1 hx
    exact distinctKeys_ofSpan t xs hxs

/-- The name of the service is one occurrence of its key, and an attribute is one of its own. -/
theorem count_resourceAttributes (p : ProcessInfo) (key : String) :
    ((resourceAttributes p).map Prod.fst).count key =
      (if p.attributes.contains key then 1 else 0) + if key = "service.name" then 1 else 0 := by
  rw [resourceAttributes, List.map_cons, List.count_cons, p.attributes.nodup_keys.count]
  simp only [Attributes.mem_keys_iff, beq_iff_eq, @eq_comm _ "service.name"]

theorem distinctKeys_resourceAttributes_iff (p : ProcessInfo) :
    DistinctKeys (resourceAttributes p) ↔ p.attributes.contains "service.name" = false := by
  rw [DistinctKeys, resourceAttributes, List.map_cons, List.nodup_cons, Attributes.mem_keys_iff,
    Bool.not_eq_true]
  exact and_iff_left p.attributes.nodup_keys

/-- **Keys are distinct unless the process has an attribute under the key of the service's name.** -/
theorem distinctKeys_ofTrace_iff (d : TraceData) :
    (ofTrace d).DistinctKeys ↔ d.process.attributes.contains "service.name" = false := by
  rw [← distinctKeys_resourceAttributes_iff]
  constructor
  · intro h
    exact h _ (List.mem_append_left _ List.mem_cons_self)
  · intro h xs hxs
    rcases List.mem_append.1 hxs with hxs | hxs
    · obtain ⟨r, hr, rfl⟩ := List.mem_map.1 hxs
      obtain rfl := List.mem_singleton.1 hr
      exact h
    · exact distinctKeys_innerLists d xs hxs

end Otlp

/-! ### Batches -/

namespace Intake

/-- Trace data that comes of a wire batch, with the keys of the tags of its process. -/
inductive TaggedWith : List String → TraceData → Prop
  | thrift (b : Thrift.Batch) :
      TaggedWith ((b.process.tags.getD []).map (·.key)) (ofThrift b).data
  | protobuf {b : Protobuf.Batch} {p : Protobuf.ProcessInfo} {o : Outcome}
      (hp : b.FirstProcess p) (h : ofProtobuf b = .ok o) :
      TaggedWith (p.tags.map (·.key)) o.data

/-- Whatever comes of a wire batch has some tags. -/
theorem Produced.exists_taggedWith {d : TraceData} (h : Produced d) :
    ∃ keys, TaggedWith keys d := by
  cases h with
  | thrift b => exact ⟨_, .thrift b⟩
  | protobuf h =>
      obtain ⟨p, hp, _⟩ := ofProtobuf_eq_ok_iff.1 h
      exact ⟨_, .protobuf hp h⟩

/-- The attributes of the process have the keys of its tags. -/
theorem TaggedWith.contains_iff {keys : List String} {d : TraceData} (h : TaggedWith keys d)
    {key : String} : d.process.attributes.contains key = true ↔ key ∈ keys := by
  cases h with
  | thrift b =>
      show (thriftAttributes (b.process.tags.getD [])).asText.contains key = true ↔ _
      rw [Attributes.contains_asText, List.mem_map]
      exact Attributes.contains_ofList_map_iff
  | protobuf hp h =>
      obtain ⟨q, hq, rfl⟩ := ofProtobuf_eq_ok_iff.1 h
      obtain rfl : _ = q := Option.some.inj
        ((batchProcess?_eq_some_iff.2 hp).symm.trans (batchProcess?_eq_some_iff.2 hq))
      rw [List.mem_map]
      exact Attributes.contains_ofList_map_iff

/-- **The keys of exported attributes are distinct exactly if no tag of the process has the key
`service.name`.**  Whatever the tags are, no other key occurs twice, and all lists but that of the
resource have distinct keys. -/
theorem distinctKeys_iff_of_taggedWith {keys : List String} {d : TraceData}
    (h : TaggedWith keys d) :
    ((Otlp.ofTrace d).DistinctKeys ↔ "service.name" ∉ keys) ∧
    (∀ xs ∈ (Otlp.ofTrace d).innerLists, Otlp.DistinctKeys xs) ∧
    ∀ r ∈ (Otlp.ofTrace d).resources, ∀ key ≠ "service.name",
      (r.resource.map Prod.fst).count key ≤ 1 := by
  refine ⟨?_, Otlp.distinctKeys_innerLists d, ?_⟩
  · rw [Otlp.distinctKeys_ofTrace_iff, ← h.contains_iff, Bool.not_eq_true]
  · intro r hr key hkey
    obtain rfl := List.mem_singleton.1 hr
    show ((Otlp.resourceAttributes d.process).map Prod.fst).count key ≤ 1
    rw [Otlp.count_resourceAttributes, if_neg hkey]
    split <;> decide

/-- A batch of one span, whose process has a tag with the given key. -/
def taggedBatch (key : String) : Thrift.Batch where
  process := ⟨"svc", some [.ofText key "other"]⟩
  spans := [
    { traceIdLow := 7, traceIdHigh := 0, spanId := 1, parentSpanId := 0, operationName := "op"
      references := none, flags := 1, startTime := 5, duration := 6, tags := none, logs := none }]
  seqNo := none

/-- A protobuf batch without spans, whose process has a tag with the given key. -/
def taggedRequest (key : String) : Protobuf.Batch :=
  { spans := [], process := some { serviceName := "svc", tags := [{ key, vStr := "other" }] } }

/-- **Keys are not always distinct.** -/
theorem not_distinctKeys_of_produced :
    ¬ ∀ d, Produced d → (Otlp.ofTrace d).DistinctKeys := by
  intro h
  exact absurd (h _ (.thrift (taggedBatch "service.name"))) (by decide)

theorem distinctKeys_iff_of_taggedWith_taggedBatch :
    (TaggedWith ["service.name"] (ofThrift (taggedBatch "service.name")).data ∧
      ¬ (Otlp.ofTrace (ofThrift (taggedBatch "service.name")).data).DistinctKeys) ∧
    (TaggedWith ["host"] (ofThrift (taggedBatch "host")).data ∧
      (Otlp.ofTrace (ofThrift (taggedBatch "host")).data).DistinctKeys) ∧
    ∃ o, ofProtobuf (taggedRequest "service.name") = .ok o ∧ TaggedWith ["service.name"] o.data ∧
      ¬ (Otlp.ofTrace o.data).DistinctKeys := by
  have hbatch : ∀ key, TaggedWith [key] (ofThrift (taggedBatch key)).data :=
    fun key => .thrift (taggedBatch key)
  have hrequest : ∃ o, ofProtobuf (taggedRequest "service.name") = .ok o ∧
      TaggedWith ["service.name"] o.data :=
    ⟨_, rfl, @TaggedWith.protobuf (taggedRequest "service.name") _ _ (.own rfl) rfl⟩
  obtain ⟨o, ho, htagged⟩ := hrequest
  refine ⟨⟨hbatch _, ?_⟩, ⟨hbatch _, ?_⟩, o, ho, htagged, ?_⟩
  · rw [(distinctKeys_iff_of_taggedWith (hbatch "service.name")).1]
    decide
  · rw [(distinctKeys_iff_of_taggedWith (hbatch "host")).1]
    decide
  · rw [(distinctKeys_iff_of_taggedWith htagged).1]
    decide

end Intake

end SpanIntake

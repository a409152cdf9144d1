/-
**Tags of unknown types.**

The number of a tag's type says which of its values counts.  A number that is no type leaves this
open; what the tag says is then kept as a text.  In Thrift this is the text of the first value that
the tag carries.  In protobuf it is the text value whatever the tag carries, so that a value of
another kind is lost: the key stays, with an empty text.

Main definitions:

* `Thrift.Tag.values`, `Protobuf.KeyValue.values` — the values that a tag carries;
* `Intake.UnknownType` — the number of no type;
* `Thrift.Tag.Says`, `Protobuf.KeyValue.Says` — what a tag says wherever it stands.

Main results:

* `Intake.thriftValue_of_unknownType`, `Intake.protobufValue_of_unknownType` — the value of such a
  tag;
* `Intake.says_of_unknownType` — **with one value, a tag of unknown type always says its text in
  Thrift, and in protobuf exactly if the value is a text**;
* `Intake.not_says_of_unknownType` — the text of an integer is lost.
-/

import SpanIntake.Proofs.Intake.Accepted
import SpanIntake.Proofs.Intake.LastTag
import SpanIntake.Proofs.Trace.Partition
import SpanIntake.Proofs.Trace.ValueText

set_option relaxedAutoImplicit false
set_option autoImplicit false

namespace SpanIntake

open Keyed

/-! ### What a tag carries and says -/

namespace Thrift

/-- The values that a tag carries, in the order in which they are looked for. -/
def Tag.values (t : Tag) : List AttributeValue :=
  (t.vStr.map .text).toList ++ (t.vLong.map .int).toList ++ (t.vDouble.map .double).toList
    ++ (t.vBool.map .bool).toList ++ (t.vBinary.map .bytes).toList

/-- The last tag of a key says a value: so it is in a process and in an event, and in a span as
well, of whose attributes some are lifted. -/
structure Tag.Says (t : Tag) (v : AttributeValue) : Prop where
  /-- In a process. -/
  process : ∀ p : ProcessInfo, last? Tag.key t.key (p.tags.getD []) = some t →
    (Intake.processOfThrift p).attributes.get? t.key = some v
  /-- In an event. -/
  event : ∀ l e, Intake.eventOfThrift l = .ok e → last? Tag.key t.key l.fields = some t →
    e.attributes.get? t.key = some v
  /-- In a span, before status and kind are lifted off. -/
  lifted : ∀ s x, Intake.spanOfThrift s = .ok x → last? Tag.key t.key (s.tags.getD []) = some t →
    ∃ a, Reserved.lift a = x.lifted ∧ a.get? t.key = some v
  /-- In a span, under a key that is never lifted. -/
  span : ∀ s x, Intake.spanOfThrift s = .ok x → last? Tag.key t.key (s.tags.getD []) = some t →
    t.key ≠ Reserved.statusCode → t.key ≠ Reserved.statusMessage → t.key ≠ Reserved.spanKind →
    x.attributes.get? t.key = some v

end Thrift

namespace Protobuf

/-- The values of a tag that are not what a field that is left out has. -/
def KeyValue.values (m : KeyValue) : List AttributeValue :=
  [.text m.vStr, .bool m.vBool, .int m.vInt64, .double m.vFloat64, .bytes m.vBinary].filter
    fun v => !v.isDefault

/-- The last tag of a key says a value: so it is in a process and in an event, and in a span as
well, of whose attributes some are lifted. -/
structure KeyValue.Says (m : KeyValue) (v : AttributeValue) : Prop where
  /-- In a process. -/
  process : ∀ p : ProcessInfo, last? KeyValue.key m.key p.tags = some m →
    (Intake.processOfProtobuf p).attributes.get? m.key = some v
  /-- In an event. -/
  event : ∀ l e, Intake.eventOfProtobuf l = .ok e → last? KeyValue.key m.key l.fields = some m →
    e.attributes.get? m.key = some v
  /-- In a span, before status and kind are lifted off. -/
  lifted : ∀ s x, Intake.spanOfProtobuf s = .ok x → last? KeyValue.key m.key s.tags = some m →
    ∃ a, Reserved.lift a = x.lifted ∧ a.get? m.key = some v
  /-- In a span, under a key that is never lifted. -/
  span : ∀ s x, Intake.spanOfProtobuf s = .ok x → last? KeyValue.key m.key s.tags = some m →
    m.key ≠ Reserved.statusCode → m.key ≠ Reserved.statusMessage → m.key ≠ Reserved.spanKind →
    x.attributes.get? m.key = some v

end Protobuf

namespace Intake

/-! ### Numbers of types -/

/-- A number that is no type. -/
def UnknownType (n : Int32) : Prop := n.toInt < 0 ∨ 4 < n.toInt

instance (n : Int32) : Decidable (UnknownType n) := inferInstanceAs (Decidable (_ ∨ _))

/-- Where the types are numbered from nought to four, other numbers have none. -/
theorem find?_code_eq_none_iff {α : Type} {code : α → Int32} {xs : List α}
    (hcodes : xs.map code = [0, 1, 2, 3, 4]) {n : Int32} :
    xs.find? (code · == n) = none ↔ UnknownType n := by
  have hnot : xs.find? (code · == n) = none ↔ n ∉ xs.map code := by
    rw [List.find?_eq_none, List.mem_map]
    simp
  have hnumber : ∀ k : Int32, n = k ↔ n.toInt = k.toInt := fun k => Int32.toInt_inj.symm
  have hvalues : (0 : Int32).toInt = 0 ∧ (1 : Int32).toInt = 1 ∧ (2 : Int32).toInt = 2 ∧
      (3 : Int32).toInt = 3 ∧ (4 : Int32).toInt = 4 := by decide
  rw [hnot, hcodes, UnknownType]
  simp only [List.mem_cons, List.not_mem_nil, or_false, hnumber]
  omega

theorem tagType_ofCode?_eq_none_iff {n : Int32} :
    Thrift.TagType.ofCode? n = none ↔ UnknownType n :=
  find?_code_eq_none_iff rfl

theorem valueType_ofCode?_eq_none_iff {n : Int32} :
    Protobuf.ValueType.ofCode? n = none ↔ UnknownType n :=
  find?_code_eq_none_iff rfl

/-! ### Values of unknown types -/

/-- **In Thrift, a tag of unknown type has the text of the first value that it carries.** -/
theorem thriftValue_of_unknownType {t : Thrift.Tag} (h : UnknownType t.vType) :
    thriftValue t = .text ((t.values.head?.map AttributeValue.toText).getD "") := by
  obtain ⟨key, vType, vStr, vDouble, vBool, vLong, vBinary⟩ := t
  have htype : Thrift.TagType.ofCode? vType = none := tagType_ofCode?_eq_none_iff.2 h
  unfold thriftValue
  rw [htype]
  -- the values are looked for in this order, and the first that is there decides
  cases vStr with
  | some s => rfl
  | none => cases vLong with
    | some n => rfl
    | none => cases vDouble with
      | some d => rfl
      | none => cases vBool with
        | some b => rfl
        | none => cases vBinary with
          | some bs => rfl
          | none => rfl

/-- **In protobuf, a tag of unknown type has its text value**, whatever else it carries. -/
theorem protobufValue_of_unknownType {m : Protobuf.KeyValue} (h : UnknownType m.vType) :
    protobufValue m = .text m.vStr := by
  rw [protobufValue, valueType_ofCode?_eq_none_iff.2 h]

/-- A text that is the only value of a tag is its text value. -/
theorem eq_vStr_of_values {m : Protobuf.KeyValue} {v : AttributeValue} (h : m.values = [v])
    (htext : v.isText = true) : v = .text m.vStr := by
  have hmem : v ∈ m.values := h ▸ List.mem_singleton_self v
  obtain ⟨hmem, -⟩ := List.mem_filter.1 hmem
  simp only [List.mem_cons, List.not_mem_nil, or_false] at hmem
  rcases hmem with rfl | rfl | rfl | rfl | rfl
  · rfl
  all_goals cases htext

/-- Where the only value of a tag is no text, its text value is empty. -/
theorem vStr_eq_empty_of_values {m : Protobuf.KeyValue} {v : AttributeValue} (h : m.values = [v])
    (htext : v.isText = false) : m.vStr = "" := by
  by_cases hempty : m.vStr = ""
  · exact hempty
  · have hnot : (AttributeValue.text m.vStr).isDefault = false :=
      Bool.eq_false_iff.2 fun hs => hempty (String.isEmpty_iff.1 hs)
    have hmem : .text m.vStr ∈ m.values :=
      List.mem_filter.2 ⟨List.mem_cons_self, by rw [hnot]; rfl⟩
    rw [h, List.mem_singleton] at hmem
    rw [← hmem] at htext
    cases htext

theorem isDefault_of_values {m : Protobuf.KeyValue} {v : AttributeValue} (h : m.values = [v]) :
    v.isDefault = false := by
  have hmem : v ∈ m.values := h ▸ List.mem_singleton_self v
  simpa using (List.mem_filter.1 hmem).2

/-! ### What tags say -/

/-- A key that is not lifted keeps its value in a span. -/
theorem get?_of_lift_eq {a : Attributes} {x : Span} (h : Reserved.lift a = x.lifted) {key : String}
    (hcode : key ≠ Reserved.statusCode) (hmessage : key ≠ Reserved.statusMessage)
    (hkind : key ≠ Reserved.spanKind) : x.attributes.get? key = a.get? key := by
  have hsplits := Reserved.splits_lift a
  rw [h] at hsplits
  exact hsplits.others key hcode hmessage hkind

theorem get?_thriftAttributes {ts : List Thrift.Tag} {t : Thrift.Tag}
    (h : last? Thrift.Tag.key t.key ts = some t) :
    (thriftAttributes ts).get? t.key = some (thriftValue t) := by
  have hlast : last? Prod.fst t.key (ts.map fun t => (t.key, thriftValue t)) =
      (last? Thrift.Tag.key t.key ts).map fun t => (t.key, thriftValue t) :=
    last?_map (fun _ => rfl) t.key ts
  rw [thriftAttributes, Attributes.get?_ofList_eq_last?, hlast, h]
  rfl

theorem get?_protobufAttributes {ms : List Protobuf.KeyValue} {m : Protobuf.KeyValue}
    (h : last? Protobuf.KeyValue.key m.key ms = some m) :
    (protobufAttributes ms).get? m.key = some (protobufValue m) := by
  have hlast : last? Prod.fst m.key (ms.map fun m => (m.key, protobufValue m)) =
      (last? Protobuf.KeyValue.key m.key ms).map fun m => (m.key, protobufValue m) :=
    last?_map (fun _ => rfl) m.key ms
  rw [protobufAttributes, Attributes.get?_ofList_eq_last?, hlast, h]
  rfl

/-- A tag says its value, if that is a text: in a process nothing else is kept. -/
theorem says_thriftValue {t : Thrift.Tag} {s : String} (h : thriftValue t = .text s) :
    t.Says (.text s) := by
  have hlifted : ∀ w x, spanOfThrift w = .ok x →
      last? Thrift.Tag.key t.key (w.tags.getD []) = some t →
      Reserved.lift (thriftAttributes (w.tags.getD [])) = x.lifted ∧
        (thriftAttributes (w.tags.getD [])).get? t.key = some (.text s) := by
    intro w x hx hlast
    exact ⟨(spanOfThrift_eq_ok_iff.1 hx).lifted, h ▸ get?_thriftAttributes hlast⟩
  constructor
  case process =>
    intro p hlast
    rw [processOfThrift, Attributes.get?_asText, get?_thriftAttributes hlast, h]
    rfl
  case event =>
    intro l e he hlast
    rw [(eventOfThrift_eq_ok_iff.1 he).2, get?_thriftAttributes hlast, h]
  case lifted =>
    intro w x hx hlast
    exact ⟨_, hlifted w x hx hlast⟩
  case span =>
    intro w x hx hlast hcode hmessage hkind
    obtain ⟨hlift, hget⟩ := hlifted w x hx hlast
    rw [get?_of_lift_eq hlift hcode hmessage hkind, hget]

theorem says_protobufValue (m : Protobuf.KeyValue) : m.Says (protobufValue m) := by
  have hlifted : ∀ w x, spanOfProtobuf w = .ok x →
      last? Protobuf.KeyValue.key m.key w.tags = some m →
      Reserved.lift (protobufAttributes w.tags) = x.lifted ∧
        (protobufAttributes w.tags).get? m.key = some (protobufValue m) := by
    intro w x hx hlast
    exact ⟨(spanOfProtobuf_eq_ok_iff.1 hx).lifted, get?_protobufAttributes hlast⟩
  constructor
  case process =>
    intro p hlast
    exact get?_protobufAttributes hlast
  case event =>
    intro l e he hlast
    rw [(eventOfProtobuf_eq_ok_iff.1 he).2, get?_protobufAttributes hlast]
  case lifted =>
    intro w x hx hlast
    exact ⟨_, hlifted w x hx hlast⟩
  case span =>
    intro w x hx hlast hcode hmessage hkind
    obtain ⟨hlift, hget⟩ := hlifted w x hx hlast
    rw [get?_of_lift_eq hlift hcode hmessage hkind, hget]

/-- What a tag says is one value. -/
theorem eq_protobufValue {m : Protobuf.KeyValue} {v : AttributeValue}
    (h : m.Says v) : v = protobufValue m := by
  have hlast : last? Protobuf.KeyValue.key m.key [m] = some m := by simp [last?]
  have hv := h.process ⟨"", [m]⟩ hlast
  rw [(says_protobufValue m).process ⟨"", [m]⟩ hlast] at hv
  exact (Option.some.inj hv).symm

/-- **A tag of unknown type that carries one value says the text of that value** — always in
Thrift, and in protobuf exactly if the value is a text.  Otherwise it says the empty text. -/
theorem says_of_unknownType (t : Thrift.Tag) (m : Protobuf.KeyValue) (v : AttributeValue) :
    (UnknownType t.vType → t.values = [v] → t.Says (.text v.toText)) ∧
    (UnknownType m.vType → m.values = [v] →
      (m.Says (.text v.toText) ↔ v.isText = true) ∧ (v.isText = false → m.Says (.text ""))) := by
  constructor
  · intro htype hvalues
    refine says_thriftValue ?_
    rw [thriftValue_of_unknownType htype, hvalues]
    rfl
  · intro htype hvalues
    have hvalue := protobufValue_of_unknownType htype
    have hsays := says_protobufValue m
    rw [hvalue] at hsays
    refine ⟨⟨fun h => ?_, fun htext => ?_⟩, fun htext => ?_⟩
    · by_contra htext
      have hempty := vStr_eq_empty_of_values hvalues (Bool.eq_false_iff.2 htext)
      have heq := eq_protobufValue h
      rw [hvalue, hempty] at heq
      cases AttributeValue.toText_ne_empty (isDefault_of_values hvalues) (AttributeValue.text.inj heq)
    · rw [eq_vStr_of_values hvalues htext]
      exact hsays
    · rwa [vStr_eq_empty_of_values hvalues htext] at hsays

/-- A Thrift tag of no known type with an integer. -/
def untypedTag : Thrift.Tag := { key := "k", vType := 42, vLong := some 5 }

/-- A protobuf tag of no known type with a text and an integer. -/
def untypedKeyValue (text : String) (n : Int64) : Protobuf.KeyValue :=
  { key := "k", vType := 42, vStr := text, vInt64 := n }

/-- **In protobuf the text of a value may be lost.** -/
theorem not_says_of_unknownType :
    ¬ ∀ (m : Protobuf.KeyValue) (v : AttributeValue), UnknownType m.vType → m.values = [v] →
      m.Says (.text v.toText) := by
  intro h
  have hsays := h (untypedKeyValue "" 5) (.int 5) (by decide) (by decide)
  exact absurd (eq_protobufValue hsays) (by decide)

theorem says_of_unknownType_integer :
    (UnknownType 42 ∧ untypedTag.values = [.int 5] ∧ untypedTag.Says (.text "5")) ∧
    ((untypedKeyValue "raw" 0).values = [.text "raw"] ∧
      (untypedKeyValue "raw" 0).Says (.text "raw")) ∧
    (untypedKeyValue "" 5).values = [.int 5] ∧ (untypedKeyValue "" 5).Says (.text "") ∧
      ¬ (untypedKeyValue "" 5).Says (.text "5") := by
  have htype : UnknownType 42 := by decide
  have htag : untypedTag.values = [.int 5] := by decide
  have htext : (untypedKeyValue "raw" 0).values = [.text "raw"] := by decide
  have hinteger : (untypedKeyValue "" 5).values = [.int 5] := by decide
  obtain ⟨hthrift, hlost⟩ := says_of_unknownType untypedTag (untypedKeyValue "" 5) (.int 5)
  obtain ⟨-, hkept⟩ := says_of_unknownType untypedTag (untypedKeyValue "raw" 0) (.text "raw")
  obtain ⟨hiff, hempty⟩ := hlost htype hinteger
  exact ⟨⟨htype, htag, hthrift htype htag⟩, ⟨htext, (hkept htype htext).1.2 rfl⟩,
    hinteger, hempty rfl, fun h => absurd (hiff.1 h) (by decide)⟩

end Intake

end SpanIntake

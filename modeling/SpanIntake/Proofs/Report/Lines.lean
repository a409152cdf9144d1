/-
**The lines of a batch printed for people.**

A batch is meant to have a heading, a line for its process if that has attributes, and a line for
each span.  All that the printer writes of its own stays on one line, and so does a message, which is
put between quotes.  But names, keys and texts of values are printed as they came: a newline in one
of them ends a line in the middle, and what follows can look like any line at all.  Each such newline
makes one line too many.

Main definitions:

* `TraceData.printed` — the texts that are printed as they came;
* `Report.LineStructured` — the printed lines are those that are meant.

Main results:

* `Report.count_span`, `Report.count_heading` — the control characters of a line are those of the
  texts in it;
* `Report.length_splitOn_human` — how many lines are printed;
* `Report.lineStructured_iff` — **the printed lines are those that are meant exactly if no text that
  is printed as it came holds a newline**;
* `Report.not_lineStructured_of_produced` — such a text can be sent.
-/

import SpanIntake.Proofs.Intake.Consistent
import SpanIntake.Proofs.Time.Rfc3339
import SpanIntake.Proofs.Trace.ValueText
import SpanIntake.Report.Human

set_option relaxedAutoImplicit false
set_option autoImplicit false

namespace SpanIntake

open Json (Printable)

/-! ### Texts that are printed as they came -/

/-- The keys of attributes and those of their values that are texts. -/
def Attributes.texts (a : Attributes) : List String :=
  a.entries.flatMap fun x => x.1 :: x.2.text?.toList

theorem Attributes.texts_eq_nil {a : Attributes} (h : a.isEmpty = true) : a.texts = [] := by
  rw [Attributes.texts, List.isEmpty_iff.1 h, List.flatMap_nil]

/-- The name of a span and the texts of its attributes. -/
def Span.printed (s : Span) : List String := s.name :: s.attributes.texts

/-- The name of the service, and the texts of the process and of the spans. -/
def TraceData.printed (d : TraceData) : List String :=
  d.process.serviceName :: (d.process.attributes.texts ++ d.spans.flatMap Span.printed)

/-- How often a character occurs in texts. -/
def occurrences (c : Char) (ss : List String) : Nat := (ss.flatMap String.toList).count c

theorem occurrences_cons (c : Char) (s : String) (ss : List String) :
    occurrences c (s :: ss) = s.toList.count c + occurrences c ss := by
  rw [occurrences, List.flatMap_cons, List.count_append, occurrences]

theorem occurrences_append (c : Char) (ss ts : List String) :
    occurrences c (ss ++ ts) = occurrences c ss + occurrences c ts := by
  rw [occurrences, List.flatMap_append, List.count_append, occurrences, occurrences]

theorem occurrences_eq_zero_iff {c : Char} {ss : List String} :
    occurrences c ss = 0 ↔ ∀ s ∈ ss, c ∉ s.toList := by
  rw [occurrences, List.count_eq_zero, List.mem_flatMap]
  exact ⟨fun h s hs hc => h ⟨s, hs, hc⟩, fun h ⟨s, hs, hc⟩ => h s hs hc⟩

/-! ### Lines of a text -/

/-- Between items there is one separator fewer than there are items. -/
theorem count_intercalate_self (c : Char) (ls : List (List Char)) :
    ([c].intercalate ls).count c = (ls.length - 1) + ls.flatten.count c := by
  induction ls with
  | nil => rfl
  | cons l ls ih =>
      cases ls with
      | nil => simp
      | cons k ls =>
          rw [List.intercalate_cons_cons, List.count_append, List.count_append, ih,
            List.count_singleton_self]
          simp only [List.flatten_cons, List.count_append, List.length_cons]
          omega

/-- Separators hold no other character. -/
theorem count_intercalate_of_ne {c d : Char} (h : c ≠ d) (ls : List (List Char)) :
    ([d].intercalate ls).count c = ls.flatten.count c := by
  have hseparator : [d].count c = 0 := List.count_eq_zero.2 (by simpa using h)
  induction ls with
  | nil => rfl
  | cons l ls ih =>
      cases ls with
      | nil => simp
      | cons k ls =>
          rw [List.intercalate_cons_cons, List.count_append, List.count_append, ih, hseparator]
          simp only [List.flatten_cons, List.count_append, Nat.add_zero]

/-- A text has one line more than it has newlines. -/
theorem length_splitOn (c : Char) (cs : List Char) :
    (cs.splitOn c).length = cs.count c + 1 := by
  induction cs with
  | nil => rfl
  | cons d ds ih =>
      rw [List.splitOn_cons_eq_if_modifyHead, List.count_cons]
      split
      · simp [ih]
      · simp [ih]

/-! ### Texts without control characters -/

theorem Hex.printable_encodeChars (bs : Bytes) : Printable (Hex.encodeChars bs) := by
  have hdigit : ∀ n : Fin 16, 32 ≤ (Hex.digit n.val).toNat := by decide
  intro c hc
  obtain ⟨b, -, hc⟩ := List.mem_flatMap.1 hc
  have hb := b.toNat_lt
  simp only [Hex.ofByte, List.mem_cons, List.not_mem_nil, or_false] at hc
  rcases hc with rfl | rfl
  · exact hdigit ⟨b.toNat / 16, by omega⟩
  · exact hdigit ⟨b.toNat % 16, by omega⟩

theorem Id.printable_toHex {k : IdKind} (i : Id k) : Printable i.toHex.toList := by
  rw [Id.toHex, Hex.encode, String.toList_ofList]
  exact Hex.printable_encodeChars i.bytes

namespace Quoted

theorem printable_toDigits_sixteen (n : Nat) : Printable (Nat.toDigits 16 n) := by
  have hdigit : ∀ k : Fin 16, 32 ≤ (Nat.digitChar k.val).toNat := by decide
  induction n using Nat.strongRecOn with
  | ind n ih =>
      rw [Nat.toDigits_eq_if (by decide)]
      split
      · rename_i hn
        exact .cons (hdigit ⟨n, hn⟩) .nil
      · exact (ih (n / 16) (by omega)).append
          (.cons (hdigit ⟨n % 16, Nat.mod_lt n (by decide)⟩) .nil)

theorem printable_byNumber (c : Char) : Printable (byNumber c) :=
  .cons (by decide) (.cons (by decide) (.cons (by decide)
    ((printable_toDigits_sixteen _).append (by decide))))

theorem printable_escapeChar (c : Char) : Printable (escapeChar c) := by
  unfold escapeChar
  iterate 6 (split; · decide)
  split
  · exact printable_byNumber c
  · rename_i hshows
    have hle : 32 ≤ c.toNat := by
      by_contra hlt
      have hhidden := Printable.not_isPrintable_of_lt (c := c) (by omega)
      simp [hhidden] at hshows
    exact .cons hle .nil

theorem printable_quote (s : String) : Printable (quote s).toList := by
  rw [quote, String.toList_ofList]
  exact forall_quoteChars s (by decide) printable_escapeChar

end Quoted

namespace Rfc3339

theorem printable_padded (width n : Nat) : Printable (padded width n) :=
  Json.printable_of_isDigit fun _ h => isDigit_of_mem_padded h

theorem printable_yearChars (year : Int) : Printable (yearChars year) := by
  unfold yearChars
  split
  · exact printable_padded _ _
  · refine .cons ?_ (printable_padded _ _)
    split <;> decide

theorem printable_write (t : Instant) : Printable (write .six .letter t).toList := by
  have hmarked : ∀ (mark : Char) (width n : Nat), 32 ≤ mark.toNat →
      Printable (mark :: padded width n) := fun _ width n h => .cons h (printable_padded width n)
  rw [write, String.toList_ofList, chars]
  refine .append (.append (.append (.append (.append (.append (.append ?_ ?_) ?_) ?_) ?_) ?_) ?_)
    (by decide)
  · exact printable_yearChars _
  all_goals exact hmarked _ _ _ (by decide)

end Rfc3339

theorem StatusCode.printable_name (code : StatusCode) : Printable code.name.toList := by
  cases code <;> decide

theorem SourceFormat.printable_name (format : SourceFormat) : Printable format.name.toList := by
  cases format <;> decide

namespace Report

theorem printable_status (s : Status) : Printable (status false s).toList := by
  rw [status]
  split
  · exact s.code.printable_name
  · rw [paint, if_neg Bool.false_ne_true, String.toList_append, String.toList_append]
    exact .append (.append s.code.printable_name (by decide)) (Quoted.printable_quote s.message)

theorem printable_parent (p : Option SpanId) : Printable (parent p).toList := by
  cases p with
  | none => decide
  | some i => exact i.printable_toHex

theorem printable_toString (n : Nat) : Printable (toString n).toList :=
  Json.printable_toString n

/-! ### Control characters of a line -/

variable {c : Char}

theorem count_eq_zero (hc : c.toNat < 32) {s : String} (h : Printable s.toList) :
    s.toList.count c = 0 := by
  rw [List.count_eq_zero]
  intro hmem
  have hle := h c hmem
  omega

theorem count_append (c : Char) (s t : String) :
    (s ++ t).toList.count c = s.toList.count c + t.toList.count c := by
  rw [String.toList_append, List.count_append]

theorem count_append_printable (hc : c.toNat < 32) (s : String) {t : String}
    (h : Printable t.toList) : (s ++ t).toList.count c = s.toList.count c := by
  rw [count_append, count_eq_zero hc h, Nat.add_zero]

theorem count_printable_append (hc : c.toNat < 32) {s : String} (h : Printable s.toList)
    (t : String) : (s ++ t).toList.count c = t.toList.count c := by
  rw [count_append, count_eq_zero hc h, Nat.zero_add]

/-- A value has the control characters of its text. -/
theorem count_toText (hc : c.toNat < 32) (v : AttributeValue) :
    v.toText.toList.count c = occurrences c v.text?.toList := by
  cases v with
  | text s =>
      rw [AttributeValue.toText, AttributeValue.text?, Option.toList_some, occurrences_cons]
      rfl
  | _ => exact count_eq_zero hc (AttributeValue.printable_toText rfl)

theorem count_attributes (hc : c.toNat < 32) (a : Attributes) :
    (attributes a).toList.count c = occurrences c a.texts := by
  have hspace : c ≠ ' ' := by
    rintro rfl
    exact absurd hc (by decide)
  rw [attributes, String.toList_intercalate, show " ".toList = [' '] from rfl,
    count_intercalate_of_ne hspace, Attributes.texts]
  induction a.entries with
  | nil => rfl
  | cons x xs ih =>
      simp only [List.map_cons, List.flatten_cons, List.count_append, List.flatMap_cons,
        List.cons_append, occurrences_cons, occurrences_append, count_append, count_toText hc, ih,
        count_eq_zero hc (s := "=") (by decide)]
      omega

/-- **The control characters in the line of a span** are those of its name and of the texts of its
attributes. -/
theorem count_span (hc : c.toNat < 32) (s : Span) :
    (span false s).toList.count c = occurrences c s.printed := by
  have hattributes : (if s.attributes.isEmpty then "" else
      " attrs=" ++ attributes s.attributes).toList.count c = occurrences c s.attributes.texts := by
    split
    · rename_i hempty
      rw [Attributes.texts_eq_nil hempty]
      rfl
    · rw [count_printable_append hc (by decide), count_attributes hc]
  have hevents : Printable (if s.events.isEmpty then "" else
      " events=" ++ toString s.events.length).toList := by
    split
    · decide
    · rw [String.toList_append]
      exact .append (by decide) (printable_toString _)
  have hplain : ∀ (t : String) {u : String}, Printable u.toList →
      (t ++ u).toList.count c = t.toList.count c := count_append_printable hc
  unfold span
  rw [hplain _ hevents, count_append, hattributes, hplain _ (printable_status s.status),
    hplain _ (u := " status=") (by decide), hplain _ (u := "ms") (by decide),
    hplain _ (Json.printable_toString _), hplain _ (u := " duration=") (by decide),
    hplain _ (Rfc3339.printable_write s.startTime), hplain _ (u := " start=") (by decide),
    hplain _ (printable_parent s.parent), hplain _ (u := " parent=") (by decide),
    hplain _ s.spanId.printable_toHex, hplain _ (u := " span=") (by decide),
    hplain _ s.traceId.printable_toHex, hplain _ (u := " trace=") (by decide),
    count_printable_append hc (s := "  ") (by decide), Span.printed, occurrences_cons]

/-- **The control characters in the heading** are those of the name of the service. -/
theorem count_heading (hc : c.toNat < 32) (d : TraceData) :
    (heading false d).toList.count c = d.process.serviceName.toList.count c := by
  have hplain : ∀ (t : String) {u : String}, Printable u.toList →
      (t ++ u).toList.count c = t.toList.count c := count_append_printable hc
  unfold heading
  rw [hplain _ (printable_toString _), hplain _ (u := " spans=") (by decide),
    hplain _ d.sourceFormat.printable_name, hplain _ (u := " format=") (by decide),
    count_printable_append hc (s := "BATCH service=") (by decide), paint,
    if_neg Bool.false_ne_true]

theorem occurrences_spans (hc : c.toNat < 32) (spans : List Span) :
    occurrences c (spans.map (span false)) = occurrences c (spans.flatMap Span.printed) := by
  induction spans with
  | nil => rfl
  | cons s spans ih =>
      rw [List.map_cons, occurrences_cons, List.flatMap_cons, occurrences_append, count_span hc, ih]

/-- **The control characters of all lines** are those of the texts that are printed as they came. -/
theorem occurrences_lines (hc : c.toNat < 32) (d : TraceData) :
    occurrences c (lines false d) = occurrences c d.printed := by
  have hprocess : occurrences c (if d.process.attributes.isEmpty then []
      else ["  process " ++ attributes d.process.attributes]) =
        occurrences c d.process.attributes.texts := by
    split
    · rename_i hempty
      rw [Attributes.texts_eq_nil hempty]
    · rw [occurrences_cons, count_printable_append hc (s := "  process ") (by decide),
        count_attributes hc]
      rfl
  rw [lines, TraceData.printed, occurrences_cons, occurrences_append, occurrences_cons,
    occurrences_append, count_heading hc, hprocess, occurrences_spans hc]

/-! ### Lines of a batch -/

/-- The printed lines are those that are meant: a heading, a line for the process if that has
attributes, and a line for each span in order. -/
def LineStructured (d : TraceData) : Prop :=
  (human false d).toList.splitOn '\n' =
    (heading false d ::
      ((if d.process.attributes.isEmpty then []
        else ["  process " ++ attributes d.process.attributes]) ++
        d.spans.map (span false))).map String.toList

theorem length_lines (d : TraceData) :
    (lines false d).length =
      1 + (if d.process.attributes.isEmpty then 0 else 1) + d.spans.length := by
  rw [lines, List.length_cons, List.length_append, List.length_map]
  split <;> simp <;> omega

/-- **Each newline in a text that is printed as it came makes one line too many.** -/
theorem length_splitOn_human (d : TraceData) :
    ((human false d).toList.splitOn '\n').length =
      (lines false d).length + occurrences '\n' d.printed := by
  have hflatten : ((lines false d).map String.toList).flatten.count '\n' =
      occurrences '\n' d.printed := occurrences_lines (by decide) d
  rw [length_splitOn, human, String.toList_intercalate, show "\n".toList = ['\n'] from rfl,
    count_intercalate_self, hflatten, List.length_map, lines, List.length_cons]
  omega

theorem LineStructured.not_mem {d : TraceData} (h : LineStructured d) :
    ∀ s ∈ d.printed, '\n' ∉ s.toList := by
  have hlength := congrArg List.length h
  rw [List.length_map] at hlength
  exact occurrences_eq_zero_iff.1 (Nat.left_eq_add.1 (hlength.symm.trans (length_splitOn_human d)))

theorem lineStructured_of_not_mem {d : TraceData} (h : ∀ s ∈ d.printed, '\n' ∉ s.toList) :
    LineStructured d := by
  have hlines : occurrences '\n' (lines false d) = 0 :=
    (occurrences_lines (by decide) d).trans (occurrences_eq_zero_iff.2 h)
  have hnone : ∀ l ∈ (lines false d).map String.toList, '\n' ∉ l := by
    intro l hl
    obtain ⟨s, hs, rfl⟩ := List.mem_map.1 hl
    exact occurrences_eq_zero_iff.1 hlines s hs
  rw [LineStructured, human, String.toList_intercalate, show "\n".toList = ['\n'] from rfl,
    List.splitOn_intercalate _ hnone (List.cons_ne_nil _ _)]
  rfl

/-- **The printed lines are those that are meant exactly if no name, no key and no text of a value
holds a newline**; each newline there makes one line too many. -/
theorem lineStructured_iff (d : TraceData) :
    (LineStructured d ↔ ∀ s ∈ d.printed, '\n' ∉ s.toList) ∧
    ((human false d).toList.splitOn '\n').length =
      1 + (if d.process.attributes.isEmpty then 0 else 1) + d.spans.length +
        occurrences '\n' d.printed := by
  refine ⟨⟨LineStructured.not_mem, lineStructured_of_not_mem⟩, ?_⟩
  rw [length_splitOn_human, length_lines]

/-- A batch of one span, whose name ends one line and begins another. -/
def forgedBatch : Thrift.Batch where
  process := ⟨"shop", none⟩
  seqNo := none
  spans := [
    { traceIdLow := 1, traceIdHigh := 0, spanId := 2, parentSpanId := 0
      operationName := "a\nBATCH service=bank format=jaeger spans=0"
      references := none, flags := 0, startTime := 0, duration := 0, tags := none, logs := none }]

/-- **Whoever sends a batch can add lines to what is printed.** -/
theorem not_lineStructured_of_produced :
    ¬ ∀ d, Intake.Produced d → LineStructured d := by
  intro h
  exact absurd (h (Intake.ofThrift forgedBatch).data (.thrift forgedBatch)).not_mem
    (by decide +kernel)

end Report

end SpanIntake

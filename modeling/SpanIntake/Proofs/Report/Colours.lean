/-
**Colours change nothing but colour.**

A text is coloured by putting one sequence of characters before it and one behind it.  Taking all
such sequences out of what is printed gives the same text whether it was printed with colours or
without: next to a coloured text there are only characters with which no sequence can go on, so that
taking one out brings nothing together that would look like another.  And what is printed without
colours has no sequence in it, unless a name, a key or a text of a value has one of its own;
messages never have, since they are put between quotes.

Main definitions:

* `Colours.strip`, `Colours.uncoloured` — a text without its colour sequences;
* `Colours.Outside` — a text with which no colour sequence can go on.

Main results:

* `Colours.strip_append` — texts are stripped each on its own where no sequence can go on;
* `Colours.strip_of_not_mem` — nothing is taken out where there is no escape character;
* `Report.strip_paint` — a coloured text;
* `Report.strip_span`, `Report.strip_heading` — the lines;
* `Report.strip_human` — **the same is left of what is printed with colours and without**;
* `Report.count_escape_human_true` — how many sequences there are;
* `Report.uncoloured_human` — **without its colours the coloured text is the plain one**.
-/

import SpanIntake.Proofs.Report.Lines
import SpanIntake.Sample

set_option relaxedAutoImplicit false
set_option autoImplicit false

namespace SpanIntake

namespace Colours

/-! ### Colour sequences -/

/-- The character that begins a colour sequence. -/
def escape : Char := '\x1b'

/-- The text behind the number of a colour sequence and the letter that ends it; `begun` says
whether a digit of the number was read before. -/
def behindNumber? (begun : Bool) : List Char → Option (List Char)
  | [] => none
  | c :: cs =>
    if c.isDigit then behindNumber? true cs
    else if c = 'm' && begun then some cs
    else none

/-- The text behind the colour sequence that a text begins with: an escape character, a bracket, a
number and the letter m. -/
def behindSequence? : List Char → Option (List Char)
  | c :: '[' :: cs => if c = escape then behindNumber? false cs else none
  | _ => none

theorem length_behindNumber? {begun : Bool} {cs rest : List Char}
    (h : behindNumber? begun cs = some rest) : rest.length < cs.length := by
  induction cs generalizing begun with
  | nil => cases h
  | cons c cs ih =>
      rw [behindNumber?] at h
      split at h
      · exact Nat.lt_succ_of_lt (ih h)
      · split at h
        · cases h
          exact Nat.lt_succ_self _
        · cases h

theorem length_behindSequence? {cs rest : List Char} (h : behindSequence? cs = some rest) :
    rest.length < cs.length := by
  unfold behindSequence? at h
  split at h
  · split at h
    · have hlt := length_behindNumber? h
      simp only [List.length_cons]
      omega
    · cases h
  · cases h

/-- Characters without the colour sequences among them. -/
def strip (cs : List Char) : List Char :=
  match _h : behindSequence? cs with
  | some rest => strip rest
  | none =>
    match cs with
    | [] => []
    | c :: cs => c :: strip cs
termination_by cs.length
decreasing_by
  · exact length_behindSequence? _h
  · exact Nat.lt_succ_self _

/-- A text without its colour sequences. -/
def uncoloured (s : String) : String := String.ofList (strip s.toList)

theorem strip_of_some {cs rest : List Char} (h : behindSequence? cs = some rest) :
    strip cs = strip rest := by
  rw [strip]
  split
  · rename_i hrest
    rw [Option.some.inj (hrest.symm.trans h)]
  · rename_i hnone
    cases hnone.symm.trans h

theorem strip_cons {c : Char} {cs : List Char} (h : behindSequence? (c :: cs) = none) :
    strip (c :: cs) = c :: strip cs := by
  rw [strip]
  split
  · rename_i hrest
    cases hrest.symm.trans h
  · rfl

theorem strip_nil : strip [] = [] := by
  rw [strip]
  rfl

theorem strip_cons_of_ne {c : Char} (hc : c ≠ escape) (cs : List Char) :
    strip (c :: cs) = c :: strip cs := by
  refine strip_cons ?_
  unfold behindSequence?
  split
  · rename_i heq
    rw [if_neg (by rw [← (List.cons.inj heq).1]; exact hc)]
  · rfl

/-- Nothing is taken out where there is no escape character. -/
theorem strip_of_not_mem {cs : List Char} (h : escape ∉ cs) : strip cs = cs := by
  induction cs with
  | nil => exact strip_nil
  | cons c cs ih =>
      simp only [List.mem_cons, not_or] at h
      rw [strip_cons_of_ne (Ne.symm h.1), ih h.2]

/-! ### Where no sequence goes on -/

/-- No colour sequence that began before can go on with a text. -/
def Outside (cs : List Char) : Prop :=
  ∀ c ∈ cs.head?, c ≠ '[' ∧ c ≠ 'm' ∧ c.isDigit = false

theorem Outside.nil : Outside [] := nofun

theorem outside_cons_iff {c : Char} {cs : List Char} :
    Outside (c :: cs) ↔ c ≠ '[' ∧ c ≠ 'm' ∧ c.isDigit = false := by
  simp [Outside]

instance : (cs : List Char) → Decidable (Outside cs)
  | [] => .isTrue .nil
  | _ :: _ => decidable_of_iff _ outside_cons_iff.symm

variable {t : List Char}

theorem Outside.append {u : List Char} (ht : Outside t) (hu : Outside u) : Outside (t ++ u) := by
  cases t with
  | nil => exact hu
  | cons c t => exact ht

theorem Outside.append_of_ne_nil (ht : Outside t) (hne : t ≠ []) (u : List Char) :
    Outside (t ++ u) := by
  obtain ⟨c, t, rfl⟩ := List.exists_cons_of_ne_nil hne
  exact ht

theorem behindNumber?_append (ht : Outside t) (begun : Bool) (cs : List Char) :
    behindNumber? begun (cs ++ t) = (behindNumber? begun cs).map (· ++ t) := by
  induction cs generalizing begun with
  | nil =>
      cases t with
      | nil => rfl
      | cons c t =>
          obtain ⟨-, hm, hdigit⟩ := ht c rfl
          simp [behindNumber?, hdigit, hm]
  | cons c cs ih =>
      rw [List.cons_append, behindNumber?, behindNumber?, ih]
      split
      · rfl
      · split <;> rfl

theorem behindSequence?_append (ht : Outside t) (c : Char) (cs : List Char) :
    behindSequence? (c :: cs ++ t) = (behindSequence? (c :: cs)).map (· ++ t) := by
  match cs with
  | [] =>
      cases t with
      | nil => rfl
      | cons d t =>
          have hd : d ≠ '[' := (ht d rfl).1
          simp [behindSequence?, hd]
  | d :: ds =>
      by_cases hd : d = '['
      · subst hd
        simp only [List.cons_append, behindSequence?]
        split
        · exact behindNumber?_append ht false ds
        · rfl
      · simp [behindSequence?, hd]

/-- **Two texts are stripped each on its own** if no sequence goes on from the first into the
second. -/
theorem strip_append (ht : Outside t) (cs : List Char) : strip (cs ++ t) = strip cs ++ strip t := by
  fun_induction strip cs with
  | case1 cs rest h ih =>
      cases cs with
      | nil => cases h
      | cons c cs =>
          have happend : behindSequence? (c :: cs ++ t) = some (rest ++ t) := by
            rw [behindSequence?_append ht, h, Option.map_some]
          rw [strip_of_some happend, ih]
  | case2 => rfl
  | case3 c cs h ih =>
      have happend : behindSequence? (c :: (cs ++ t)) = none := by
        rw [← List.cons_append, behindSequence?_append ht, h, Option.map_none]
      rw [List.cons_append, strip_cons happend, ih, List.cons_append]

theorem strip_cons_append (c : Char) (hc : Outside [c]) (hescape : c ≠ escape)
    (as bs : List Char) : strip (as ++ c :: bs) = strip as ++ c :: strip bs := by
  rw [strip_append (t := c :: bs) hc, strip_cons_of_ne hescape]

/-- Lines are stripped each on its own. -/
theorem strip_intercalate {c : Char} (hc : Outside [c]) (hescape : c ≠ escape)
    (ls : List (List Char)) : strip ([c].intercalate ls) = [c].intercalate (ls.map strip) := by
  induction ls with
  | nil => exact strip_nil
  | cons l ls ih =>
      cases ls with
      | nil => simp
      | cons k ls =>
          rw [List.map_cons, List.map_cons, List.intercalate_cons_cons,
            List.intercalate_cons_cons, List.append_assoc, List.append_assoc,
            List.singleton_append, List.singleton_append, strip_cons_append c hc hescape, ih,
            List.map_cons]

end Colours

namespace Report

open Colours

/-! ### Coloured texts -/

variable {t : List Char}

/-- **A coloured text is stripped like the plain one**, whatever stands in it, if no sequence goes
on behind it. -/
theorem strip_paint (ht : Outside t) (colour : Colour) (s : String) :
    strip ((paint true colour s).toList ++ t) = strip (s.toList ++ t) := by
  have hbefore (u : List Char) :
      strip (("\x1b[" ++ colour.code ++ "m").toList ++ u) = strip u := by
    cases colour <;> exact strip_of_some rfl
  have hbehind : strip ("\x1b[39m".toList ++ t) = strip t := strip_of_some rfl
  have houtside : Outside ("\x1b[39m".toList ++ t) :=
    .append_of_ne_nil (by decide) (by decide) t
  have hpaint : (paint true colour s).toList =
      ("\x1b[" ++ colour.code ++ "m").toList ++ (s.toList ++ "\x1b[39m".toList) := by
    rw [paint, if_pos rfl, String.toList_append, String.toList_append, List.append_assoc]
  rw [hpaint, List.append_assoc, hbefore, List.append_assoc, strip_append houtside, hbehind,
    ← strip_append ht]

theorem strip_status (ht : Outside t) (s : Status) :
    strip ((status true s).toList ++ t) = strip ((status false s).toList ++ t) := by
  unfold status
  split
  · exact strip_paint ht .green _
  · exact strip_paint ht .red _

/-! ### Lines -/

/-- A mark that stands before a text which may be left out. -/
theorem outside_marked (mark : String) (hmark : Outside mark.toList) (hne : mark.toList ≠ [])
    (b : Bool) (s : String) : Outside (if b then "" else mark ++ s).toList := by
  cases b with
  | true => exact .nil
  | false =>
      rw [if_neg Bool.false_ne_true, String.toList_append]
      exact hmark.append_of_ne_nil hne _

/-- In the line of a span the status stands between a mark and a text that no sequence reaches. -/
theorem exists_toList_span (s : Span) :
    ∃ before behind : List Char, Outside behind ∧ ∀ colours, (span colours s).toList =
      before ++ '=' :: ((status colours s.status).toList ++ behind) := by
  have hattributes := outside_marked " attrs=" (by decide) (by decide)
    s.attributes.isEmpty (attributes s.attributes)
  have hevents := outside_marked " events=" (by decide) (by decide)
    s.events.isEmpty (toString s.events.length)
  obtain ⟨before, hspan⟩ : ∃ before : String, ∀ colours, span colours s =
      before ++ " status=" ++ status colours s.status
        ++ (if s.attributes.isEmpty then "" else " attrs=" ++ attributes s.attributes)
        ++ (if s.events.isEmpty then "" else " events=" ++ toString s.events.length) :=
    ⟨_, fun _ => rfl⟩
  have hmark : " status=".toList = " status".toList ++ ['='] := rfl
  refine ⟨before.toList ++ " status".toList, _, hattributes.append hevents, fun colours => ?_⟩
  rw [hspan]
  simp only [String.toList_append, hmark, List.append_assoc, List.cons_append, List.nil_append]

/-- Behind a mark both texts are stripped on their own. -/
theorem strip_marked {cs ds : List Char} (h : strip cs = strip ds) (before : List Char) :
    strip (before ++ '=' :: cs) = strip (before ++ '=' :: ds) := by
  rw [strip_cons_append '=' (by decide) (by decide), h,
    strip_cons_append '=' (by decide) (by decide)]

/-- **The line of a span.** -/
theorem strip_span (s : Span) : strip (span true s).toList = strip (span false s).toList := by
  obtain ⟨before, behind, hbehind, hspan⟩ := exists_toList_span s
  rw [hspan, hspan]
  exact strip_marked (strip_status hbehind s.status) before

/-- In the heading the service stands between a mark and a text that no sequence reaches. -/
theorem exists_toList_heading (d : TraceData) :
    ∃ behind : List Char, Outside behind ∧ ∀ colours, (heading colours d).toList =
      "BATCH service=".toList ++
        ((paint colours .cyan d.process.serviceName).toList ++ behind) := by
  have hbehind : Outside (" format=".toList ++
      (d.sourceFormat.name ++ (" spans=" ++ toString d.spans.length)).toList) :=
    .append_of_ne_nil (by decide) (by decide) _
  refine ⟨_, hbehind, fun colours => ?_⟩
  unfold heading
  simp only [String.toList_append, List.append_assoc]

/-- **The heading.** -/
theorem strip_heading (d : TraceData) :
    strip (heading true d).toList = strip (heading false d).toList := by
  obtain ⟨behind, hbehind, hheading⟩ := exists_toList_heading d
  have hmark : "BATCH service=".toList = "BATCH service".toList ++ ['='] := rfl
  rw [hheading, hheading, hmark, List.append_assoc, List.append_assoc]
  exact strip_marked (strip_paint hbehind .cyan _) _

/-! ### Batches -/

theorem strip_lines (d : TraceData) :
    (lines true d).map (strip ∘ String.toList) = (lines false d).map (strip ∘ String.toList) := by
  have hspans : (d.spans.map (span true)).map (strip ∘ String.toList) =
      (d.spans.map (span false)).map (strip ∘ String.toList) := by
    rw [List.map_map, List.map_map]
    exact List.map_congr_left fun s _ => strip_span s
  simp only [lines, List.map_cons, List.map_append, hspans, Function.comp_apply, strip_heading]

/-- **The same is left of what is printed with colours and without**, whatever texts are in it. -/
theorem strip_human (d : TraceData) :
    strip (human true d).toList = strip (human false d).toList := by
  have hlines : ∀ colours, strip (human colours d).toList =
      ['\n'].intercalate ((lines colours d).map (strip ∘ String.toList)) := by
    intro colours
    rw [human, String.toList_intercalate, show "\n".toList = ['\n'] from rfl,
      strip_intercalate (by decide) (by decide), List.map_map]
  rw [hlines, hlines, strip_lines]

/-! ### Escape characters -/

theorem count_escape_paint (colour : Colour) (s : String) :
    (paint true colour s).toList.count escape = 2 + s.toList.count escape := by
  have hbefore : ("\x1b[" ++ colour.code ++ "m").toList.count escape = 1 := by
    cases colour <;> decide
  have hbehind : "\x1b[39m".toList.count escape = 1 := by decide
  rw [paint, if_pos rfl, count_append, count_append, hbefore, hbehind]
  omega

theorem count_escape_status (s : Status) :
    (status true s).toList.count escape = 2 + (status false s).toList.count escape := by
  unfold status
  split
  · exact count_escape_paint .green _
  · exact count_escape_paint .red _

theorem count_escape_span (s : Span) :
    (span true s).toList.count escape = 2 + (span false s).toList.count escape := by
  obtain ⟨before, behind, -, hspan⟩ := exists_toList_span s
  have hmark : ('=' == escape) = false := by decide
  simp only [hspan, List.count_append, List.count_cons, count_escape_status, hmark]
  omega

theorem count_escape_heading (d : TraceData) :
    (heading true d).toList.count escape = 2 + (heading false d).toList.count escape := by
  obtain ⟨behind, -, hheading⟩ := exists_toList_heading d
  simp only [hheading, List.count_append, count_escape_paint]
  rw [paint, if_neg Bool.false_ne_true]
  omega

theorem occurrences_escape_spans (spans : List Span) :
    occurrences escape (spans.map (span true)) =
      2 * spans.length + occurrences escape (spans.map (span false)) := by
  induction spans with
  | nil => rfl
  | cons s spans ih =>
      rw [List.map_cons, List.map_cons, occurrences_cons, occurrences_cons, count_escape_span, ih,
        List.length_cons]
      omega

theorem count_escape_human (colours : Bool) (d : TraceData) :
    (human colours d).toList.count escape = occurrences escape (lines colours d) := by
  rw [human, String.toList_intercalate, show "\n".toList = ['\n'] from rfl,
    count_intercalate_of_ne (by decide)]
  rfl

/-- **Each colour is switched on and off again**: the service is coloured, and the status of every
span is. -/
theorem count_escape_human_true (d : TraceData) :
    (human true d).toList.count escape =
      2 * (1 + d.spans.length) + (human false d).toList.count escape := by
  rw [count_escape_human, count_escape_human]
  simp only [lines, occurrences_cons, occurrences_append, count_escape_heading,
    occurrences_escape_spans]
  omega

/-- **Without colours no escape character is printed** that is not in a name, a key or a text of a
value. -/
theorem count_escape_human_false {d : TraceData} (h : ∀ s ∈ d.printed, escape ∉ s.toList) :
    (human false d).toList.count escape = 0 := by
  rw [count_escape_human, occurrences_lines (by decide)]
  exact occurrences_eq_zero_iff.2 h

/-- **Without its colours the coloured text is the plain one**, if no name, no key and no text of a
value holds an escape character.  The colours are there: two sequences for the service and two for
the status of every span. -/
theorem uncoloured_human (d : TraceData) (h : ∀ s ∈ d.printed, escape ∉ s.toList) :
    uncoloured (human true d) = human false d ∧
      (human true d).toList.count escape = 2 * (1 + d.spans.length) := by
  have hnone := count_escape_human_false h
  constructor
  · rw [uncoloured, strip_human, strip_of_not_mem (List.count_eq_zero.1 hnone),
      String.ofList_toList]
  · rw [count_escape_human_true, hnone, Nat.add_zero]

/-- Two failed spans. -/
theorem uncoloured_human_sample :
    (∀ s ∈ (Sample.traceData .jaegerThrift).printed, escape ∉ s.toList) ∧
      uncoloured (human true (Sample.traceData .jaegerThrift)) =
        human false (Sample.traceData .jaegerThrift) ∧
      (human true (Sample.traceData .jaegerThrift)).toList.count escape = 6 := by
  have h : ∀ s ∈ (Sample.traceData .jaegerThrift).printed, escape ∉ s.toList := by decide +kernel
  exact ⟨h, uncoloured_human _ h⟩

end Report

end SpanIntake

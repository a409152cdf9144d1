/-
**Types of bodies.**

The HTTP collector reads a body whose type is not stated, or is one of the two that Thrift goes by.
Parameters behind a semicolon do not count, nor do blanks around the type or the case of its
letters.  Every other type is refused, and so is one that is no visible text.

Main definitions:

* `Collector.InFront` — what stands in front of the parameters of a type;
* `Collector.TypeAccepted` — which headers let a body be read.

Main results:

* `Collector.mediaType_mem_iff` — which texts name a type that Thrift goes by;
* `Collector.checkType_eq_ok_iff` — **which types are accepted**.
-/

import Mathlib.Data.List.TakeWhile
import SpanIntake.Collector.Http

set_option relaxedAutoImplicit false
set_option autoImplicit false

namespace SpanIntake.Collector

/-- What stands in front of the parameters of a type: all of a text without a semicolon, or what is
before its first semicolon. -/
inductive InFront : List Char → List Char → Prop
  | whole {cs : List Char} (h : ';' ∉ cs) : InFront cs cs
  | before {front : List Char} (parameters : List Char) (h : ';' ∉ front) :
      InFront (front ++ ';' :: parameters) front

theorem forall_ne_semicolon {cs : List Char} (h : ';' ∉ cs) :
    ∀ c ∈ cs, decide (c ≠ ';') = true := by
  intro c hc
  refine decide_eq_true ?_
  rintro rfl
  exact h hc

theorem takeWhile_of_not_mem {cs : List Char} (h : ';' ∉ cs) :
    (cs.takeWhile fun c => c ≠ ';') = cs :=
  List.takeWhile_eq_self_iff.2 (forall_ne_semicolon h)

theorem takeWhile_append_semicolon {front : List Char} (h : ';' ∉ front) (parameters : List Char) :
    ((front ++ ';' :: parameters).takeWhile fun c => c ≠ ';') = front := by
  rw [List.takeWhile_append_of_pos (forall_ne_semicolon h),
    List.takeWhile_cons_of_neg (by decide), List.append_nil]

theorem inFront_iff {cs front : List Char} :
    InFront cs front ↔ (cs.takeWhile fun c => c ≠ ';') = front := by
  constructor
  · rintro (h | ⟨parameters, h⟩)
    · exact takeWhile_of_not_mem h
    · exact takeWhile_append_semicolon h parameters
  · rintro rfl
    by_cases hmem : ';' ∈ cs
    · obtain ⟨front, parameters, rfl, hfront⟩ := List.eq_append_cons_of_mem hmem
      rw [takeWhile_append_semicolon hfront]
      exact .before parameters hfront
    · rw [takeWhile_of_not_mem hmem]
      exact .whole hmem

/-- Which texts name a type that Thrift goes by. -/
theorem mediaType_mem_iff {s : String} :
    mediaType s ∈ thriftTypes ↔ ∃ front, InFront s.toList front ∧
      ∃ type ∈ thriftTypes, (Blank.trimChars front).map Char.toLower = type.toList := by
  simp only [inFront_iff, exists_eq_left']
  constructor
  · intro h
    exact ⟨_, h, String.toList_ofList.symm⟩
  · rintro ⟨type, htype, hchars⟩
    rwa [mediaType, hchars, String.ofList_toList]

/-- The headers of a request let its body be read: they state no type, or the first one that they
state is visible text and, in front of its parameters, a type that Thrift goes by. -/
inductive TypeAccepted (headers : Http.Headers) : Prop
  | unstated (h : Http.header? "content-type" headers = none)
  | stated {value : Bytes} {s type : String} {front : List Char}
      (hvalue : Http.header? "content-type" headers = some value)
      (hs : Http.visible? value = some s) (hfront : InFront s.toList front)
      (htype : type ∈ thriftTypes)
      (hnames : (Blank.trimChars front).map Char.toLower = type.toList)

/-- **Which types are accepted.** -/
theorem checkType_eq_ok_iff {headers : Http.Headers} :
    checkType headers = .ok () ↔ TypeAccepted headers := by
  constructor
  · intro h
    rw [checkType] at h
    split at h
    case h_1 hnone => exact .unstated hnone
    case h_2 value hvalue =>
      split at h
      case h_1 => cases h
      case h_2 s hs =>
        split at h
        case isFalse => cases h
        case isTrue hmem =>
          obtain ⟨front, hfront, type, htype, hnames⟩ :=
            mediaType_mem_iff.1 (List.contains_iff_mem.1 hmem)
          exact .stated hvalue hs hfront htype hnames
  · rintro (hnone | ⟨hvalue, hs, hfront, htype, hnames⟩)
    · simp only [checkType, hnone]
    · have hmem : thriftTypes.contains (mediaType _) = true :=
        List.contains_iff_mem.2 (mediaType_mem_iff.2 ⟨_, hfront, _, htype, hnames⟩)
      simp only [checkType, hvalue, hs, if_pos hmem]

/-- A type with parameters, in other letters. -/
example :
    checkType [("content-type", Utf8.encode "Application/X-Thrift ; charset=binary")] = .ok () := by
  rfl

end SpanIntake.Collector

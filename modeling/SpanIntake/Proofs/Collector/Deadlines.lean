/-
**Deadlines of calls.**

What bounds the consumer is the timeout that a call states, if that is shorter than the limit, and
otherwise the limit.

Main definitions:

* `Collector.StatedIn` — the timeout that the headers of a call state;
* `Collector.Bounds` — the deadline that they come to.

Main results:

* `Collector.statedIn_of_timeoutText?` — what headers with the text of a period state;
* `Collector.bounds_deadline` — **the deadline of a call**;
* `Collector.deadlines_of_calls` — from the text of a header to the call of the consumer.
-/

import SpanIntake.Collector.Grpc
import SpanIntake.Proofs.Grpc.Words

set_option relaxedAutoImplicit false
set_option autoImplicit false

namespace SpanIntake

/-! ### Visible text -/

namespace Http

theorem isVisible_ofNat {n : Nat} (h : 32 ≤ n ∧ n < 127) : isVisible (UInt8.ofNat n) = true := by
  have hbyte : (UInt8.ofNat n).toNat = n := by
    rw [UInt8.toNat_ofNat', Nat.mod_eq_of_lt (by omega)]
  simp [isVisible, UInt8.le_iff_toNat_le, UInt8.lt_iff_toNat_lt, hbyte, h]

/-- A text of visible characters is read from its bytes. -/
theorem visible?_encode {s : String} (h : ∀ c ∈ s.toList, 32 ≤ c.toNat ∧ c.toNat < 127) :
    visible? (Utf8.encode s) = some s := by
  have hbytes : Utf8.encode s = s.toList.map fun c => UInt8.ofNat c.toNat := by
    rw [← Utf8.encode_ofList_of_ascii fun c hc => Nat.lt_succ_of_lt (h c hc).2,
      String.ofList_toList]
  have hchars : (s.toList.map fun c => UInt8.ofNat c.toNat).map (fun b => Char.ofNat b.toNat) =
      s.toList := by
    rw [List.map_map]
    refine (List.map_congr_left fun c hc => ?_).trans (List.map_id _)
    have hrange := h c hc
    rw [Function.comp_apply, UInt8.toNat_ofNat', Nat.mod_eq_of_lt (by omega), Char.ofNat_toNat, id]
  have hvisible : (s.toList.map fun c => UInt8.ofNat c.toNat).all isVisible = true := by
    rw [List.all_map, List.all_eq_true]
    exact fun c hc => isVisible_ofNat (h c hc)
  rw [visible?, hbytes, if_pos hvisible, hchars, String.ofList_toList]

end Http

namespace Collector

/-! ### Stated timeouts -/

/-- The headers of a call state a timeout: the first header of that name does, in visible
characters. -/
def StatedIn (headers : Http.Headers) (p : Period) : Prop :=
  ∃ bs s, Http.header? "grpc-timeout" headers = some bs ∧ Http.visible? bs = some s ∧
    Grpc.States s p

theorem statedTimeout?_eq_some_iff {headers : Http.Headers} {p : Period} :
    statedTimeout? headers = some p ↔ StatedIn headers p := by
  simp only [statedTimeout?, Option.bind_eq_some_iff, Grpc.timeout?_eq_some_iff, StatedIn]
  constructor
  · rintro ⟨s, ⟨bs, hheader, hvisible⟩, hstates⟩
    exact ⟨bs, s, hheader, hvisible, hstates⟩
  · rintro ⟨bs, s, hheader, hvisible, hstates⟩
    exact ⟨s, ⟨bs, hheader, hvisible⟩, hstates⟩

/-- Headers with the text of a period state the whole units of it. -/
theorem statedIn_of_timeoutText? {headers : Http.Headers} {p : Period} {s : String}
    (hs : Grpc.timeoutText? p = some s)
    (hheader : Http.header? "grpc-timeout" headers = some (Utf8.encode s)) :
    ∃ u ∈ Grpc.TimeoutUnit.all, StatedIn headers ⟨p.nanos / u.nanos * u.nanos⟩ := by
  obtain ⟨u, hu, hstates⟩ := Grpc.states_of_timeoutText? hs
  exact ⟨u, hu, _, s, hheader, Http.visible?_encode (Grpc.visible_of_timeoutText? hs), hstates⟩

/-! ### The deadline -/

/-- The deadline that the headers of a call come to under a limit. -/
structure Bounds (limit : Period) (headers : Http.Headers) (d : Period) : Prop where
  /-- It is within the limit. -/
  le : d ≤ limit
  /-- A stated timeout counts if it is shorter. -/
  stated : ∀ t, StatedIn headers t → d.nanos = min t.nanos limit.nanos
  /-- Otherwise the limit does. -/
  unstated : (∀ t, ¬ StatedIn headers t) → d = limit

theorem nanos_shorter (p q : Period) : (Period.shorter p q).nanos = min p.nanos q.nanos := by
  unfold Period.shorter
  split <;> omega

/-- **The deadline of a call** is the shorter one of the stated timeout and the limit. -/
theorem bounds_deadline (limits : Limits) (headers : Http.Headers) :
    Bounds limits.consumerTimeout headers (deadline limits headers) where
  le := deadline_le limits headers
  stated t ht := by
    rw [deadline, statedTimeout?_eq_some_iff.2 ht]
    exact nanos_shorter t limits.consumerTimeout
  unstated hnone := by
    have hstated : statedTimeout? headers = none :=
      Option.eq_none_iff_forall_not_mem.2 fun t ht => hnone t (statedTimeout?_eq_some_iff.1 ht)
    rw [deadline, hstated]

/-- **The deadlines of calls.**  A text states a timeout exactly if it is one to eight digits and
the letter of a unit, apart from blanks around; in machine words it is read without fault and
exactly, whatever the text.  So each message of a call is delivered with the stated timeout where
that is shorter than the limit, and with the limit where it is not or there is none. -/
theorem deadlines_of_calls :
    (∀ (s : String) (p : Period), Grpc.timeout? s = some p ↔ Grpc.States s p) ∧
    (∀ s : String, ∃ o, Grpc.Words.timeout s = .ok o ∧
      o.map Grpc.Words.Duration.period = Grpc.timeout? s) ∧
    ∀ {σ : Type} (c : Consumer σ) (limits : Limits) (s : σ) (headers : Http.Headers)
      (r : Protobuf.Request),
      acceptCall c limits s headers r =
        deliverOr c s (deadline limits headers) (readRequest r) ∧
      Bounds limits.consumerTimeout headers (deadline limits headers) :=
  ⟨fun _ _ => Grpc.timeout?_eq_some_iff, Grpc.Words.timeout_eq,
    fun _ limits _ headers _ => ⟨rfl, bounds_deadline limits headers⟩⟩

end Collector

end SpanIntake

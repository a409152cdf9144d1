/-
**What a forwarded call carries.**

A call for a batch is to carry how long it may take and the configured headers.  Setting headers one
by one leaves the last one of every name.  But the configured headers take the place of all that the
call carried before, and with it of the stated time: it is carried only if the configured headers
happen to state the same.  Then a collector on the other side is told of the time, in whole units.
A time that is too long to be stated keeps the call from being sent at all.

Main definitions:

* `Forwarder.lastAllowed?` — the last configured value of a name that is allowed;
* `Forwarder.Carries` — what a call is meant to carry.

Main results:

* `Forward.header?_foldl_set` — headers set one by one;
* `Forwarder.header?_callHeaders` — what gRPC says itself leaves the other names alone;
* `Forwarder.request?_eq_none_iff` — when nothing is sent;
* `Forwarder.carries_iff` — **when a call carries what it is meant to**;
* `Forwarder.not_carries_of_unconfigured` — **where it does not**.
-/

import SpanIntake.Forward.Forwarder
import SpanIntake.Proofs.Collector.Deadlines
import SpanIntake.Proofs.Keyed.Last

set_option relaxedAutoImplicit false
set_option autoImplicit false

namespace SpanIntake

/-! ### Setting headers -/

namespace Forward

/-- Of headers that are set one by one the last of every name is found. -/
theorem header?_foldl_set (name : String) (hs xs : Http.Headers) :
    Http.header? name (xs.foldl set hs) =
      ((Keyed.last? Prod.fst name xs).map Prod.snd).or (Http.header? name hs) := by
  induction xs generalizing hs with
  | nil => rfl
  | cons x xs ih =>
      rw [List.foldl_cons, ih, Keyed.last?_cons]
      by_cases hx : x.1 = name
      · subst hx
        rw [header?_set, if_pos rfl]
        cases Keyed.last? Prod.fst x.1 xs <;> rfl
      · rw [header?_set_of_ne _ _ (Ne.symm hx), if_neg hx, Option.or_none]

/-- Headers that are set leave the other names alone. -/
theorem header?_foldl_set_of_ne {name : String} {xs : Http.Headers} (h : ∀ x ∈ xs, x.1 ≠ name)
    (hs : Http.Headers) : Http.header? name (xs.foldl set hs) = Http.header? name hs := by
  have hlast : Keyed.last? Prod.fst name xs = none := by
    rw [Keyed.last?, List.find?_eq_none]
    intro x hx
    simpa using h x (List.mem_reverse.1 hx)
  rw [header?_foldl_set, hlast]
  rfl

/-- Names that are kept are found among those that are kept. -/
theorem header?_filter {name : String} (keep : String → Bool) (h : keep name = true)
    (hs : Http.Headers) :
    Http.header? name (hs.filter fun x => keep x.1) = Http.header? name hs := by
  have hfind : (hs.filter fun x => keep x.1).find? (fun x => x.1 = name) =
      hs.find? fun x => x.1 = name := by
    rw [List.find?_filter]
    congr 1
    funext x
    by_cases hx : x.1 = name
    · simp [hx, h]
    · simp [hx]
  rw [Http.header?, Http.header?, hfind]

theorem fst_of_allowed? {protocol : Protocol} {h : String × String} {x : String × Bytes}
    (hx : allowed? protocol h = some x) : lower h.1 = x.1 := by
  rw [allowed?] at hx
  split at hx
  case h_1 name value hname hvalue =>
    obtain rfl := Option.some.inj hx
    rw [name?] at hname
    split at hname
    · cases hname
    · split at hname
      · cases hname
      · exact Option.some.inj hname
  case h_2 => cases hx

end Forward

/-! ### Calls -/

namespace Forwarder

/-- The last configured value of a name that is allowed. -/
def lastAllowed? (t : Forward.Target) (name : String) : Option Bytes :=
  (Keyed.last? Prod.fst name (t.headers.filterMap (Forward.allowed? t.protocol))).map Prod.snd

/-- The names of which gRPC says something itself, or keeps others from saying it. -/
def ownNames : List String := reservedNames ++ ["grpc-encoding", "grpc-accept-encoding"]

theorem mem_ownNames_of_mem_ownHeaders {c : Forward.Compression} {x : String × Bytes}
    (h : x ∈ ownHeaders c) : x.1 ∈ ownNames := by
  cases c with
  | none =>
      simp only [ownHeaders, encodingHeader, List.append_nil, List.mem_cons, List.not_mem_nil,
        or_false] at h
      rcases h with rfl | rfl <;> decide
  | gzip =>
      simp only [ownHeaders, encodingHeader, List.cons_append, List.nil_append, List.mem_cons,
        List.not_mem_nil, or_false] at h
      rcases h with rfl | rfl | rfl | rfl <;> decide

/-- What gRPC says itself leaves the other names alone. -/
theorem header?_callHeaders {name : String} (h : name ∉ ownNames) (c : Forward.Compression)
    (metadata : Http.Headers) :
    Http.header? name (callHeaders c metadata) = Http.header? name metadata := by
  have hreserved : name ∉ reservedNames := fun hmem => h (List.mem_append_left _ hmem)
  rw [callHeaders, Forward.header?_foldl_set_of_ne]
  · exact Forward.header?_filter (fun n => !reservedNames.contains n) (by simpa using hreserved)
      metadata
  · rintro x hx rfl
    exact h (mem_ownNames_of_mem_ownHeaders hx)

/-- What a call is meant to carry: how long it may take, and of every other name the last configured
value that is allowed. -/
structure Carries (t : Forward.Target) (metadata : Http.Headers) : Prop where
  /-- It states how long it may take. -/
  time : ∃ s, Grpc.timeoutText? t.timeout = some s ∧
    Http.header? "grpc-timeout" metadata = some (Utf8.encode s)
  /-- It carries the configured headers. -/
  configured : ∀ name, name ≠ "grpc-timeout" → Http.header? name metadata = lastAllowed? t name

variable {t : Forward.Target} {f : Forwarder} {d : TraceData} {o : Outgoing} {r : Request}

/-- What forwards to a target: its headers are those that are sent along, and its time is that of
the target. -/
theorem exists_route_of_ofTarget (hf : ofTarget t = .ok f) :
    ∃ route, routeOf t = .ok route ∧
      f = ⟨route, Forward.sent t.protocol t.headers, t.compression, t.timeout⟩ := by
  rw [ofTarget] at hf
  split at hf
  case h_1 => cases hf
  case h_2 route hroute => exact ⟨route, hroute, (Except.ok.inj hf).symm⟩

theorem exists_server_of_ofTarget (hgrpc : t.protocol = .grpc) (hf : ofTarget t = .ok f) :
    ∃ server, f.route = .grpc server := by
  obtain ⟨route, hroute, rfl⟩ := exists_route_of_ofTarget hf
  rw [routeOf, hgrpc] at hroute
  dsimp only at hroute
  split at hroute
  case h_1 server _ => exact ⟨server, (Except.ok.inj hroute).symm⟩
  case h_2 => cases hroute

theorem request?_of_route {server : Uri} (h : f.route = .grpc server) (d : TraceData) :
    f.request? d = (f.call? d).map fun o =>
      ⟨f.route, callHeaders f.compression o.metadata, o.message⟩ := by
  unfold request?
  rw [h]

/-- **When nothing is sent**: where the time is a hundred million hours or more. -/
theorem request?_eq_none_iff (hgrpc : t.protocol = .grpc) (hf : ofTarget t = .ok f) :
    f.request? d = none ↔ 100000000 * Grpc.TimeoutUnit.hour.nanos ≤ t.timeout.nanos := by
  obtain ⟨server, hserver⟩ := exists_server_of_ofTarget hgrpc hf
  rw [request?_of_route hserver, call?, Outgoing.setTimeout?]
  obtain ⟨route, -, rfl⟩ := exists_route_of_ofTarget hf
  simp only [Option.map_eq_none_iff, Grpc.timeoutText?_eq_none_iff]

/-- The configured headers are all that a call carries: the time that it stated before is gone. -/
theorem header?_metadata_call (hf : ofTarget t = .ok f) (ho : f.call? d = some o) (name : String) :
    Http.header? name o.metadata = lastAllowed? t name := by
  obtain ⟨route, -, rfl⟩ := exists_route_of_ofTarget hf
  obtain ⟨stated, -, rfl⟩ := Option.map_eq_some_iff.1 ho
  show Http.header? name (Forward.sent t.protocol t.headers) = _
  rw [Forward.sent, Forward.header?_foldl_set, Http.header?, List.find?_nil, Option.map_none,
    Option.or_none, lastAllowed?]

theorem exists_call_of_request (hgrpc : t.protocol = .grpc) (hf : ofTarget t = .ok f)
    (hr : f.request? d = some r) :
    ∃ o, f.call? d = some o ∧ r.headers = callHeaders f.compression o.metadata := by
  obtain ⟨server, hserver⟩ := exists_server_of_ofTarget hgrpc hf
  rw [request?_of_route hserver] at hr
  obtain ⟨o, ho, rfl⟩ := Option.map_eq_some_iff.1 hr
  exact ⟨o, ho, rfl⟩

theorem header?_headers_request (hgrpc : t.protocol = .grpc) (hf : ofTarget t = .ok f)
    (hr : f.request? d = some r) {name : String} (hname : name ∉ ownNames) :
    Http.header? name r.headers = lastAllowed? t name := by
  obtain ⟨o, ho, hheaders⟩ := exists_call_of_request hgrpc hf hr
  rw [hheaders, header?_callHeaders hname, header?_metadata_call hf ho]

/-- A call carries what it is meant to exactly if the configured headers state the same time. -/
theorem carries_metadata_iff (hf : ofTarget t = .ok f) (ho : f.call? d = some o) :
    Carries t o.metadata ↔ ∃ s, Grpc.timeoutText? t.timeout = some s ∧
      lastAllowed? t "grpc-timeout" = some (Utf8.encode s) := by
  constructor
  · rintro ⟨⟨s, hs, htime⟩, -⟩
    rw [header?_metadata_call hf ho] at htime
    exact ⟨s, hs, htime⟩
  · rintro ⟨s, hs, hlast⟩
    constructor
    case time =>
      rw [header?_metadata_call hf ho]
      exact ⟨s, hs, hlast⟩
    case configured =>
      intro name _
      exact header?_metadata_call hf ho name

/-- **When a call carries what it is meant to.**  Nothing is sent exactly if the time is too long to
be stated.  What is sent carries the last allowed value that is configured for each name, in the
call and, for the names that gRPC leaves alone, in the request.  But the call states how long it may
take exactly if the configured headers do so in the same words; then a collector that gets the
request is told of the time, in whole units. -/
theorem carries_iff (hgrpc : t.protocol = .grpc) (hf : ofTarget t = .ok f) (d : TraceData) :
    (f.request? d = none ↔ 100000000 * Grpc.TimeoutUnit.hour.nanos ≤ t.timeout.nanos) ∧
    ∀ r, f.request? d = some r → ∃ o, f.call? d = some o ∧
      (Carries t o.metadata ↔
        ∃ s, Grpc.timeoutText? t.timeout = some s ∧
          lastAllowed? t "grpc-timeout" = some (Utf8.encode s)) ∧
      (∀ name, Http.header? name o.metadata = lastAllowed? t name) ∧
      (∀ name, name ∉ ownNames → Http.header? name r.headers = lastAllowed? t name) ∧
      (Carries t o.metadata → ∃ u ∈ Grpc.TimeoutUnit.all,
        Collector.StatedIn r.headers ⟨t.timeout.nanos / u.nanos * u.nanos⟩) := by
  refine ⟨request?_eq_none_iff hgrpc hf, fun r hr => ?_⟩
  obtain ⟨o, ho, -⟩ := exists_call_of_request hgrpc hf hr
  refine ⟨o, ho, carries_metadata_iff hf ho, header?_metadata_call hf ho,
    fun name => header?_headers_request hgrpc hf hr, fun hcarries => ?_⟩
  obtain ⟨s, hs, hlast⟩ := (carries_metadata_iff hf ho).1 hcarries
  refine Collector.statedIn_of_timeoutText? hs ?_
  rw [header?_headers_request hgrpc hf hr (by decide), hlast]

/-- A target to which it is said which tenant sends, and how long a call may take. -/
def timedTarget : Forward.Target :=
  ⟨"http://collector:4317", .grpc, .none, [("x-tenant", "dev"), ("grpc-timeout", "5000000u")],
    .ofSeconds 5⟩

theorem carries_iff_timedTarget :
    timedTarget.protocol = .grpc ∧
      ∃ f, ofTarget timedTarget = .ok f ∧ ∀ d, ∃ r o, f.request? d = some r ∧
        f.call? d = some o ∧ Carries timedTarget o.metadata ∧
        ∃ u ∈ Grpc.TimeoutUnit.all,
          Collector.StatedIn r.headers ⟨timedTarget.timeout.nanos / u.nanos * u.nanos⟩ := by
  obtain ⟨f, hf⟩ : ∃ f, ofTarget timedTarget = .ok f := ⟨_, rfl⟩
  refine ⟨rfl, f, hf, fun d => ?_⟩
  obtain ⟨hnone, hsent⟩ := carries_iff rfl hf d
  obtain ⟨r, hr⟩ := Option.ne_none_iff_exists'.1 (mt hnone.1 (by decide))
  obtain ⟨o, ho, hiff, -, -, hstated⟩ := hsent r hr
  have hcarries : Carries timedTarget o.metadata :=
    hiff.2 ⟨"5000000u", by decide, by decide⟩
  exact ⟨r, o, hr, ho, hcarries, hstated hcarries⟩

/-! ### Lost deadlines -/

theorem lastAllowed?_eq_none {name : String} (h : ∀ x ∈ t.headers, Forward.lower x.1 ≠ name) :
    lastAllowed? t name = none := by
  have hallowed : ∀ x ∈ t.headers.filterMap (Forward.allowed? t.protocol), x.1 ≠ name := by
    intro x hx
    obtain ⟨y, hy, hyx⟩ := List.mem_filterMap.mp hx
    rw [← Forward.fst_of_allowed? hyx]
    exact h y hy
  rw [lastAllowed?, Keyed.last?, List.find?_eq_none.mpr]
  · rfl
  · intro x hx
    simpa using hallowed x (List.mem_reverse.1 hx)

/-- **A call whose time is not configured as a header does not state it**, although there is a
timeout. -/
theorem not_carries_of_unconfigured (hf : ofTarget t = .ok f) (ho : f.call? d = some o)
    (h : ∀ x ∈ t.headers, Forward.lower x.1 ≠ "grpc-timeout") : ¬ Carries t o.metadata := by
  rintro ⟨⟨s, -, htime⟩, -⟩
  rw [header?_metadata_call hf ho, lastAllowed?_eq_none h] at htime
  cases htime

/-- A target to which it is said which tenant sends. -/
def tenantTarget : Forward.Target := { timedTarget with headers := [("x-tenant", "dev")] }

/-- A timeout of five seconds that is lost. -/
theorem not_carries_tenantTarget :
    ∃ f, ofTarget tenantTarget = .ok f ∧
      Grpc.timeoutText? tenantTarget.timeout = some "5000000u" ∧
      ∀ d, ∃ r o, f.request? d = some r ∧ f.call? d = some o ∧
        ¬ Carries tenantTarget o.metadata ∧ Http.header? "grpc-timeout" r.headers = none := by
  obtain ⟨f, hf⟩ : ∃ f, ofTarget tenantTarget = .ok f := ⟨_, rfl⟩
  have hnone : ∀ x ∈ tenantTarget.headers, Forward.lower x.1 ≠ "grpc-timeout" := by decide
  refine ⟨f, hf, by decide, fun d => ?_⟩
  obtain ⟨r, hr⟩ : ∃ r, f.request? d = some r :=
    Option.ne_none_iff_exists'.1 (mt (request?_eq_none_iff rfl hf).1 (by decide))
  obtain ⟨o, ho, -⟩ := exists_call_of_request rfl hf hr
  refine ⟨r, o, hr, ho, not_carries_of_unconfigured hf ho hnone, ?_⟩
  rw [header?_headers_request rfl hf hr (by decide), lastAllowed?_eq_none hnone]

end Forwarder

end SpanIntake

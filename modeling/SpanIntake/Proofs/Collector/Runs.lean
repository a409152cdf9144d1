/-
**Runs of the collectors.**

Two collectors share one consumer.  A run is a list of requests, over HTTP or gRPC, each of which
meets the consumer in the state that the request before it has left.  To see what the consumer is
called with, one puts a recorder in front of it; that changes no answer and not what the consumer
does.

A request yields an outcome if its body is read and a process is named.  The consumer is called for
the requests that yield a span, once for each and with what the request yields, and no other request
reaches it.  The answer blames the client exactly if the request yields nothing.

Main definitions:

* `Collector.Submission`, `Collector.Answer` — requests and answers of both collectors;
* `Collector.Submission.Yields` — what a request yields;
* `Collector.react`, `Collector.run` — the reaction to one request, and to one after the other;
* `Consumer.recorded` — the consumer with a recorder in front of it.

Main results:

* `Collector.react_recorded`, `Collector.final_recorded` — what a consumer is called with, by one
  request and by a run;
* `Collector.success_react_iff`, `Collector.clientError_react_iff` — what an answer says;
* `Collector.delivery_of_run` — **every batch that a run yields is delivered once**, and the answers
  tell what has become of it.
-/

import SpanIntake.Collector.Grpc
import SpanIntake.Delivery.Sink
import SpanIntake.Proofs.Collector.ContentType
import SpanIntake.Sample

set_option relaxedAutoImplicit false
set_option autoImplicit false

namespace SpanIntake

/-! ### What a consumer is called with -/

/-- The consumer with a recorder in front of it, which writes down every batch. -/
def Consumer.recorded {σ : Type} (c : Consumer σ) : Consumer (σ × List TraceData) where
  call s d :=
    let call := c.call s.1 d
    { duration := call.duration
      result := call.result
      events := call.events
      finished := (call.finished, s.2 ++ [d])
      abandoned := (call.abandoned, s.2 ++ [d]) }

/-- The batch that an outcome has for the consumer: none without spans. -/
def Outcome.batch? (o : Outcome) : Option TraceData :=
  if o.data.spans.isEmpty then none else some o.data

theorem Outcome.batch?_of_nil {o : Outcome} (h : o.data.spans = []) : o.batch? = none :=
  if_pos (List.isEmpty_iff.2 h)

theorem Outcome.batch?_of_ne_nil {o : Outcome} (h : o.data.spans ≠ []) :
    o.batch? = some o.data :=
  if_neg fun hempty => h (List.isEmpty_iff.1 hempty)

theorem Outcome.batch?_eq_some_iff {o : Outcome} {d : TraceData} :
    o.batch? = some d ↔ d.spans ≠ [] ∧ o.data = d := by
  constructor
  · intro h
    by_cases hspans : o.data.spans = []
    · rw [batch?_of_nil hspans] at h
      cases h
    · rw [batch?_of_ne_nil hspans] at h
      cases h
      exact ⟨hspans, rfl⟩
  · rintro ⟨hne, rfl⟩
    exact batch?_of_ne_nil hne

namespace RequestError

/-- No error passes for a success, and the class of a status says whom it blames. -/
theorem httpStatus_class (e : RequestError) :
    400 ≤ e.httpStatus ∧ (e.httpStatus < 500 ↔ e.isClientError = true) := by
  cases e with
  | consumer e => cases e <;> simp [httpStatus, isClientError]
  | _ => simp [httpStatus, isClientError]

theorem grpcStatus_ne_ok (e : RequestError) : e.grpcStatus.code ≠ .ok := by
  cases e with
  | consumer e => cases e <;> exact StatusCode.noConfusion
  | _ => exact StatusCode.noConfusion

theorem grpcStatus_eq_invalidArgument_iff (e : RequestError) :
    e.grpcStatus.code = .invalidArgument ↔ e.isClientError = true := by
  cases e with
  | consumer e => cases e <;> simp [grpcStatus, isClientError]
  | _ => simp [grpcStatus, isClientError]

end RequestError

section Delivery

variable {σ : Type} (c : Consumer σ) (s : σ) (limit : Period)

theorem deliver_of_batch {o : Outcome} (h : o.data.spans ≠ []) :
    (deliver c s o limit).state = ((c.call s o.data).within limit).state ∧
      (deliver c s o limit).answer =
        Handled.ofResult o.rejected limit ((c.call s o.data).within limit).answer := by
  rw [deliver, if_neg fun hempty => h (List.isEmpty_iff.1 hempty)]
  exact ⟨rfl, rfl⟩

/-- A call gives its result exactly if it ends in time. -/
theorem within_answer_eq_some_iff {call : Call σ} {result : Except ConsumerError Nat} :
    (call.within limit).answer = some result ↔ call.InTime limit ∧ call.result = result := by
  unfold Call.within
  split
  · rename_i htime
    simp only [htime, true_and, Option.some.injEq]
  · rename_i htime
    simp only [htime, false_and, reduceCtorEq]

theorem Handled.ofResult_eq_ok_iff {rejected : List Rejection}
    {result : Option (Except ConsumerError Nat)} {h : Handled} :
    Handled.ofResult rejected limit result = .ok h ↔
      ∃ n, result = some (.ok n) ∧ h = ⟨n, rejected⟩ := by
  constructor
  · intro hok
    cases result with
    | none => cases hok
    | some result =>
        cases result with
        | error e => cases hok
        | ok n =>
            cases hok
            exact ⟨n, rfl, rfl⟩
  · rintro ⟨n, rfl, rfl⟩
    rfl

/-- A delivery succeeds if there is nothing to deliver, or if the consumer accepts in time. -/
theorem deliver_isOk_iff {o : Outcome} :
    (∃ h, (deliver c s o limit).answer = .ok h) ↔
      o.data.spans = [] ∨
        (c.call s o.data).InTime limit ∧ ∃ n, (c.call s o.data).result = .ok n := by
  by_cases hspans : o.data.spans = []
  · exact ⟨fun _ => .inl hspans, fun _ => ⟨_, (deliver_of_empty c s limit hspans).2⟩⟩
  · rw [(deliver_of_batch c s limit hspans).2]
    constructor
    · rintro ⟨h, hok⟩
      obtain ⟨n, hanswer, -⟩ := (Handled.ofResult_eq_ok_iff limit).1 hok
      obtain ⟨htime, hresult⟩ := (within_answer_eq_some_iff limit).1 hanswer
      exact .inr ⟨htime, n, hresult⟩
    · rintro (hnil | ⟨htime, n, hresult⟩)
      · exact absurd hnil hspans
      · have hanswer := (within_answer_eq_some_iff limit).2 ⟨htime, hresult⟩
        exact ⟨⟨n, o.rejected⟩, (Handled.ofResult_eq_ok_iff limit).2 ⟨n, hanswer, rfl⟩⟩

/-- Whatever goes wrong with a delivery is not the client's fault. -/
theorem isClientError_of_deliver {o : Outcome} {e : RequestError}
    (h : (deliver c s o limit).answer = .error e) : e.isClientError = false := by
  by_cases hspans : o.data.spans = []
  · rw [(deliver_of_empty c s limit hspans).2] at h
    cases h
  · rw [(deliver_of_batch c s limit hspans).2] at h
    unfold Handled.ofResult at h
    split at h <;> cases h <;> rfl

/-- The recorder does not change how a call ends. -/
theorem within_recorded (calls : List TraceData) (d : TraceData) :
    (c.recorded.call (s, calls) d).within limit =
      ⟨(((c.call s d).within limit).state, calls ++ [d]), ((c.call s d).within limit).events,
        ((c.call s d).within limit).answer⟩ := by
  by_cases htime : (c.call s d).InTime limit
  · have hrecorded : (c.recorded.call (s, calls) d).InTime limit := htime
    rw [Call.within, Call.within, if_pos htime, if_pos hrecorded]
    rfl
  · have hrecorded : ¬ (c.recorded.call (s, calls) d).InTime limit := htime
    rw [Call.within, Call.within, if_neg htime, if_neg hrecorded]
    rfl

theorem deliver_recorded (calls : List TraceData) (o : Outcome) :
    deliver c.recorded (s, calls) o limit =
      ⟨((deliver c s o limit).state, calls ++ o.batch?.toList), (deliver c s o limit).events,
        (deliver c s o limit).answer⟩ := by
  by_cases hempty : o.data.spans.isEmpty = true
  · simp only [deliver, Outcome.batch?, if_pos hempty, Option.toList_none, List.append_nil]
  · simp only [deliver, Outcome.batch?, if_neg hempty, within_recorded, Option.toList_some]

end Delivery

/-- An accepting sink is done at once, whatever the limit. -/
theorem deliver_accept (sink : Sink) (limit : Period) (o : Outcome) :
    (deliver SinkMode.accept.consumer sink o limit).state =
      { sink with batches := sink.batches ++ o.batch?.toList } := by
  by_cases hspans : o.data.spans = []
  · rw [(deliver_of_empty _ sink limit hspans).1, Outcome.batch?_of_nil hspans,
      Option.toList_none, List.append_nil]
  · have htime : (SinkMode.accept.consumer.call sink o.data).InTime limit :=
      ⟨⟨0⟩, rfl, Nat.zero_le _⟩
    rw [(deliver_of_batch _ sink limit hspans).1, Outcome.batch?_of_ne_nil hspans, Call.within,
      if_pos htime]
    rfl

namespace Collector

/-! ### Requests and answers -/

/-- A request over HTTP, or a message with its headers over gRPC. -/
inductive Submission where
  | http (request : Http.Request)
  | grpc (headers : Http.Headers) (message : Protobuf.Request)

/-- An answer of either collector. -/
inductive Answer where
  | http (response : Http.Response)
  | grpc (reply : Grpc.Reply)

namespace Answer

/-- The answer says that all went well. -/
def Success : Answer → Prop
  | http r => 200 ≤ r.status ∧ r.status < 300
  | grpc r => r.status.code = .ok

/-- The answer blames the client. -/
def ClientError : Answer → Prop
  | http r => 400 ≤ r.status ∧ r.status < 500
  | grpc r => r.status.code = .invalidArgument

end Answer

namespace Submission

/-- The request is posted to the collector's path, and its body is within the limit. -/
def Reaches (limits : Limits) : Submission → Prop
  | http r => r.method = "POST" ∧ Http.path r.target = tracesPath ∧
      r.body.length ≤ limits.maxRequestBytes
  | grpc _ _ => True

instance (limits : Limits) : DecidablePred (Reaches limits)
  | http _ => inferInstanceAs (Decidable (_ ∧ _ ∧ _))
  | grpc _ _ => .isTrue trivial

/-- The time that the consumer has for the request. -/
def timeLimit (limits : Limits) : Submission → Period
  | http _ => limits.consumerTimeout
  | grpc headers _ => deadline limits headers

/-- What a request yields: its type is accepted and its body is a batch, or its message carries a
batch, in which a process is named. -/
inductive Yields : Submission → Outcome → Prop
  | http {r : Http.Request} {b : Thrift.Batch} (htype : TypeAccepted r.headers)
      (hbody : Thrift.decode r.body = .ok b) : Yields (.http r) (Intake.ofThrift b)
  | grpc {headers : Http.Headers} {m : Protobuf.Request} {b : Protobuf.Batch} {o : Outcome}
      (hbatch : m.batch = some b) (hprocess : Intake.ofProtobuf b = .ok o) :
      Yields (.grpc headers m) o

/-- What is read of a request. -/
def read : Submission → Except RequestError Outcome
  | http r => readBody r.headers r.body
  | grpc _ m => readRequest m

/-- The batch that a request has for the consumer. -/
def batch? (r : Submission) : Option TraceData := r.read.toOption.bind Outcome.batch?

/-- The protocol of a request in reports. -/
def protocol : Submission → String
  | http _ => "http"
  | grpc _ _ => "grpc"

/-- The answer to a request that was handled. -/
def answer : Submission → Except RequestError Handled → Answer
  | http _, handled => .http (respond handled)
  | grpc _ _, handled => .grpc (reply handled)

theorem read_eq_ok_iff {r : Submission} {o : Outcome} : r.read = .ok o ↔ r.Yields o := by
  constructor
  · intro h
    cases r with
    | http r =>
        simp only [read, readBody] at h
        split at h
        · cases h
        · rename_i htype
          split at h
          · cases h
          · rename_i hbody
            cases h
            exact .http (checkType_eq_ok_iff.1 htype) hbody
    | grpc headers m =>
        simp only [read, readRequest] at h
        split at h
        · cases h
        · rename_i hbatch
          split at h
          · cases h
          · rename_i hprocess
            cases h
            exact .grpc hbatch hprocess
  · intro h
    cases h with
    | http htype hbody => simp only [read, readBody, checkType_eq_ok_iff.2 htype, hbody]
    | grpc hbatch hprocess => simp only [read, readRequest, hbatch, hprocess]

theorem isClientError_of_checkType {headers : Http.Headers} {e : RequestError}
    (h : checkType headers = .error e) : e.isClientError = true := by
  simp only [checkType] at h
  split at h
  · cases h
  · split at h
    · cases h
      rfl
    · split at h
      · cases h
      · cases h
        rfl

/-- Whatever keeps a request from yielding anything is the client's fault. -/
theorem isClientError_of_read {r : Submission} {e : RequestError} (h : r.read = .error e) :
    e.isClientError = true := by
  cases r with
  | http r =>
      simp only [read, readBody] at h
      split at h
      · rename_i htype
        cases h
        exact isClientError_of_checkType htype
      · split at h
        · cases h
          rfl
        · cases h
  | grpc headers m =>
      simp only [read, readRequest] at h
      split at h
      · cases h
        rfl
      · split at h
        · cases h
          rfl
        · cases h

theorem batch?_of_ok {r : Submission} {o : Outcome} (h : r.read = .ok o) :
    r.batch? = o.batch? := by
  rw [batch?, h]
  rfl

theorem batch?_of_error {r : Submission} {e : RequestError} (h : r.read = .error e) :
    r.batch? = none := by
  rw [batch?, h]
  rfl

/-- A request has a batch for the consumer exactly if it yields a span. -/
theorem batch?_eq_some_iff {r : Submission} {d : TraceData} :
    r.batch? = some d ↔ d.spans ≠ [] ∧ ∃ o, r.Yields o ∧ o.data = d := by
  constructor
  · intro h
    cases hread : r.read with
    | error e =>
        rw [batch?_of_error hread] at h
        cases h
    | ok o =>
        rw [batch?_of_ok hread] at h
        obtain ⟨hne, hdata⟩ := Outcome.batch?_eq_some_iff.1 h
        exact ⟨hne, o, read_eq_ok_iff.1 hread, hdata⟩
  · rintro ⟨hne, o, hyields, hdata⟩
    rw [batch?_of_ok (read_eq_ok_iff.2 hyields)]
    exact Outcome.batch?_eq_some_iff.2 ⟨hne, hdata⟩

theorem success_answer_iff {r : Submission} {handled : Except RequestError Handled} :
    (r.answer handled).Success ↔ ∃ h, handled = .ok h := by
  cases handled with
  | ok h =>
      have hok : (r.answer (.ok h)).Success := by
        cases r with
        | http r =>
            have hstatus : (respond (.ok h)).status = 202 := rfl
            exact ⟨by omega, by omega⟩
        | grpc headers m => rfl
      exact ⟨fun _ => ⟨h, rfl⟩, fun _ => hok⟩
  | error e =>
      constructor
      · intro h
        cases r with
        | http r =>
            have hlow := e.httpStatus_class.1
            have hhigh : e.httpStatus < 300 := h.2
            omega
        | grpc headers m => exact absurd h e.grpcStatus_ne_ok
      · rintro ⟨h, hok⟩
        cases hok

theorem clientError_answer_iff {r : Submission} {handled : Except RequestError Handled} :
    (r.answer handled).ClientError ↔ ∃ e, handled = .error e ∧ e.isClientError = true := by
  cases handled with
  | ok h =>
      constructor
      · intro hblame
        cases r with
        | http r =>
            have hstatus : (respond (.ok h)).status = 202 := rfl
            have hlow := hblame.1
            omega
        | grpc headers m => exact StatusCode.noConfusion hblame
      · rintro ⟨e, herror, -⟩
        cases herror
  | error e =>
      have hclass : (r.answer (.error e)).ClientError ↔ e.isClientError = true := by
        cases r with
        | http r =>
            obtain ⟨hlow, hblame⟩ := e.httpStatus_class
            exact ⟨fun h => hblame.1 h.2, fun h => ⟨hlow, hblame.2 h⟩⟩
        | grpc headers m => exact e.grpcStatus_eq_invalidArgument_iff
      simp only [hclass, Except.error.injEq, exists_eq_left']

end Submission

/-! ### The reaction to one request -/

section Reactions

variable {σ : Type} (c : Consumer σ) (limits : Limits) (s : σ) {r : Submission}

/-- The reaction to a request or to a message. -/
def react : Submission → Reaction σ Answer
  | .http r =>
      let reaction := Collector.http c limits s r
      ⟨reaction.state, reaction.events, .http reaction.answer⟩
  | .grpc headers m =>
      let reaction := answerMessage c limits s headers m
      ⟨reaction.state, reaction.events, .grpc reaction.answer⟩

/-- What is read of a request is delivered, and the answer follows from that. -/
theorem react_eq (h : r.Reaches limits) :
    react c limits s r =
      (deliverOr c s (r.timeLimit limits) r.read).finish (outcomeEvents r.protocol) r.answer := by
  cases r with
  | http r =>
      obtain ⟨hmethod, hpath, hlength⟩ := h
      -- none of the four ways of turning a request away applies
      have hposted : Collector.http c limits s r =
          (accept c limits s r.headers r.body).finish (outcomeEvents "http") respond := by
        rw [Collector.http, if_neg (by rw [hmethod]; decide), if_neg (fun hne => hne hpath),
          if_neg (fun hne => hne hmethod), if_neg (Nat.not_lt.2 hlength)]
      rw [react, hposted]
      rfl
  | grpc headers m => rfl

/-- A request that has a batch calls the consumer with it, and no other request calls it. -/
theorem react_recorded (calls : List TraceData) (h : r.Reaches limits) :
    react c.recorded limits (s, calls) r =
      ⟨((react c limits s r).state, calls ++ r.batch?.toList), (react c limits s r).events,
        (react c limits s r).answer⟩ := by
  rw [react_eq c.recorded limits (s, calls) h, react_eq c limits s h]
  cases hread : r.read with
  | error e =>
      rw [Submission.batch?_of_error hread, Option.toList_none, List.append_nil]
      rfl
  | ok o =>
      rw [Submission.batch?_of_ok hread, deliverOr, deliver_recorded]
      rfl

theorem state_react_of_none (h : r.Reaches limits) (hnone : r.batch? = none) :
    (react c limits s r).state = s := by
  rw [react_eq c limits s h]
  cases hread : r.read with
  | error e => rfl
  | ok o =>
      rw [Submission.batch?_of_ok hread] at hnone
      by_cases hspans : o.data.spans = []
      · exact (deliver_of_empty c s _ hspans).1
      · rw [Outcome.batch?_of_ne_nil hspans] at hnone
        cases hnone

theorem success_react_iff (h : r.Reaches limits) :
    (react c limits s r).answer.Success ↔
      ∃ o, r.Yields o ∧ (o.data.spans = [] ∨
        (c.call s o.data).InTime (r.timeLimit limits) ∧
          ∃ n, (c.call s o.data).result = .ok n) := by
  rw [react_eq c limits s h]
  refine Submission.success_answer_iff.trans ?_
  simp only [← Submission.read_eq_ok_iff]
  cases hread : r.read with
  | error e =>
      constructor
      · rintro ⟨x, hok⟩
        cases hok
      · rintro ⟨o, hok, -⟩
        cases hok
  | ok o =>
      simp only [Except.ok.injEq, exists_eq_left']
      exact deliver_isOk_iff c s (r.timeLimit limits)

theorem clientError_react_iff (h : r.Reaches limits) :
    (react c limits s r).answer.ClientError ↔ ∀ o, ¬ r.Yields o := by
  rw [react_eq c limits s h]
  refine Submission.clientError_answer_iff.trans ?_
  simp only [← Submission.read_eq_ok_iff]
  -- only reading blames the client: the errors of a delivery are the consumer's
  cases hread : r.read with
  | error e =>
      have hblame := Submission.isClientError_of_read hread
      constructor
      · intro _ o hok
        cases hok
      · intro _
        exact ⟨e, rfl, hblame⟩
  | ok o =>
      constructor
      · rintro ⟨e, herror, hblame⟩
        rw [isClientError_of_deliver c s _ herror] at hblame
        cases hblame
      · intro hnone
        exact absurd rfl (hnone o)

end Reactions

theorem state_react_accept {limits : Limits} (sink : Sink) {r : Submission}
    (h : r.Reaches limits) :
    (react SinkMode.accept.consumer limits sink r).state =
      { sink with batches := sink.batches ++ r.batch?.toList } := by
  rw [react_eq _ limits sink h]
  cases hread : r.read with
  | error e =>
      rw [Submission.batch?_of_error hread, Option.toList_none, List.append_nil]
      rfl
  | ok o =>
      rw [Submission.batch?_of_ok hread]
      exact deliver_accept sink _ o

/-! ### Runs -/

/-- A request in the state that it meets, with the state that it leaves and its answer. -/
structure Exchange (σ : Type) where
  before : σ
  request : Submission
  after : σ
  answer : Answer

section Runs

variable {σ : Type} (c : Consumer σ) (limits : Limits)

/-- The exchange that a request in a state leads to. -/
def exchange (s : σ) (r : Submission) : Exchange σ :=
  ⟨s, r, (react c limits s r).state, (react c limits s r).answer⟩

/-- The exchanges of requests one after the other. -/
def run : σ → List Submission → List (Exchange σ)
  | _, [] => []
  | s, r :: rs => exchange c limits s r :: run (react c limits s r).state rs

/-- The state after requests one after the other. -/
def final : σ → List Submission → σ
  | s, [] => s
  | s, r :: rs => final (react c limits s r).state rs

theorem map_request_run (s : σ) (rs : List Submission) :
    (run c limits s rs).map Exchange.request = rs := by
  induction rs generalizing s with
  | nil => rfl
  | cons r rs ih =>
      rw [run, List.map_cons, ih]
      rfl

theorem eq_exchange_of_mem_run {s : σ} {rs : List Submission} {x : Exchange σ}
    (h : x ∈ run c limits s rs) : x = exchange c limits x.before x.request := by
  induction rs generalizing s with
  | nil => cases h
  | cons r rs ih =>
      rw [run, List.mem_cons] at h
      rcases h with rfl | htail
      · rfl
      · exact ih htail

theorem request_mem_of_mem_run {s : σ} {rs : List Submission} {x : Exchange σ}
    (h : x ∈ run c limits s rs) : x.request ∈ rs := by
  rw [← map_request_run c limits s rs]
  exact List.mem_map_of_mem h

theorem toList_append_filterMap (r : Submission) (rs : List Submission) :
    r.batch?.toList ++ rs.filterMap Submission.batch? =
      (r :: rs).filterMap Submission.batch? := by
  cases hbatch : r.batch? with
  | none => rw [List.filterMap_cons_none hbatch, Option.toList_none, List.nil_append]
  | some d => rw [List.filterMap_cons_some hbatch, Option.toList_some, List.singleton_append]

/-- A run calls the consumer with the batches of its requests, in their order. -/
theorem final_recorded (s : σ) (calls : List TraceData) {rs : List Submission}
    (h : ∀ r ∈ rs, r.Reaches limits) :
    final c.recorded limits (s, calls) rs =
      (final c limits s rs, calls ++ rs.filterMap Submission.batch?) := by
  -- for any `calls`: the rest of the run begins with what the first request has left there
  induction rs generalizing s calls with
  | nil => rw [List.filterMap_nil, List.append_nil]; rfl
  | cons r rs ih =>
      obtain ⟨hhead, htail⟩ := List.forall_mem_cons.1 h
      rw [final, final, react_recorded c limits s calls hhead, ih _ _ htail, List.append_assoc,
        toList_append_filterMap]

theorem answers_recorded (s : σ) (calls : List TraceData) {rs : List Submission}
    (h : ∀ r ∈ rs, r.Reaches limits) :
    (run c.recorded limits (s, calls) rs).map Exchange.answer =
      (run c limits s rs).map Exchange.answer := by
  induction rs generalizing s calls with
  | nil => rfl
  | cons r rs ih =>
      obtain ⟨hhead, htail⟩ := List.forall_mem_cons.1 h
      have hreact := react_recorded c limits s calls hhead
      rw [run, run, List.map_cons, List.map_cons, hreact, ih _ _ htail, exchange, exchange, hreact]

end Runs

/-- An accepting sink keeps the batches of a run, in their order. -/
theorem final_accept {limits : Limits} (sink : Sink) {rs : List Submission}
    (h : ∀ r ∈ rs, r.Reaches limits) :
    final SinkMode.accept.consumer limits sink rs =
      { sink with batches := sink.batches ++ rs.filterMap Submission.batch? } := by
  induction rs generalizing sink with
  | nil => rw [List.filterMap_nil, List.append_nil]; rfl
  | cons r rs ih =>
      obtain ⟨hhead, htail⟩ := List.forall_mem_cons.1 h
      rw [final, state_react_accept sink hhead, ih _ htail, List.append_assoc,
        toList_append_filterMap]

/-- **Delivery.**  Over a run, the consumer is called once for each request that yields a span, with
what the request yields, and for no other; a request without a batch leaves its state alone.  The
answer to a request is a success exactly if it yields something that either has no span or is
accepted in time, and blames the client exactly if it yields nothing.  An accepting sink keeps what
it is called with. -/
theorem delivery_of_run {σ : Type} (c : Consumer σ) (limits : Limits) (s : σ)
    {rs : List Submission} (h : ∀ r ∈ rs, r.Reaches limits) :
    final c.recorded limits (s, []) rs = (final c limits s rs, rs.filterMap Submission.batch?) ∧
    (run c.recorded limits (s, []) rs).map Exchange.answer =
      (run c limits s rs).map Exchange.answer ∧
    (∀ r d, Submission.batch? r = some d ↔ d.spans ≠ [] ∧ ∃ o, r.Yields o ∧ o.data = d) ∧
    (run c limits s rs).map Exchange.request = rs ∧
    (∀ x ∈ run c limits s rs,
      (x.request.batch? = none → x.after = x.before) ∧
      (x.answer.Success ↔ ∃ o, x.request.Yields o ∧ (o.data.spans = [] ∨
        (c.call x.before o.data).InTime (x.request.timeLimit limits) ∧
          ∃ n, (c.call x.before o.data).result = .ok n)) ∧
      (x.answer.ClientError ↔ ∀ o, ¬ x.request.Yields o)) ∧
    ∀ sink : Sink, final SinkMode.accept.consumer limits sink rs =
      { sink with batches := sink.batches ++ rs.filterMap Submission.batch? } := by
  refine ⟨final_recorded c limits s [] h, answers_recorded c limits s [] h,
    fun r d => Submission.batch?_eq_some_iff, map_request_run c limits s rs, ?_,
    fun sink => final_accept sink h⟩
  intro x hx
  -- the state that a request meets is any state, so that what one request does is enough
  have hreaches : x.request.Reaches limits := h _ (request_mem_of_mem_run c limits hx)
  rw [eq_exchange_of_mem_run c limits hx]
  exact ⟨state_react_of_none c limits x.before hreaches,
    success_react_iff c limits x.before hreaches,
    clientError_react_iff c limits x.before hreaches⟩

/-- Limits of four kilobytes and one second. -/
def modestLimits : Limits := ⟨4096, .ofMillis 1000⟩

/-- The bytes of a batch in Thrift. -/
def sampleBody : Bytes := (Thrift.encode Sample.thrift).toOption.getD []

/-- A batch in Thrift whose type is that of plain text, the same batch without a type, a message
without a batch, and one with a batch. -/
def mixedRun : List Submission :=
  [.http ⟨"POST", tracesPath, [("content-type", Utf8.encode "text/plain")], sampleBody⟩,
   .http ⟨"POST", tracesPath, [], sampleBody⟩,
   .grpc [] ⟨none⟩,
   .grpc [("grpc-timeout", Utf8.encode "5m")] ⟨some Sample.protobuf⟩]

theorem delivery_of_run_mixedRun :
    (∀ r ∈ mixedRun, r.Reaches modestLimits) ∧
    mixedRun.filterMap Submission.batch? =
      [Sample.traceData .jaegerThrift, Sample.traceData .jaegerProto] ∧
    (final (SinkMode.capacity 2).consumer.recorded modestLimits ({}, []) mixedRun).2 =
      [Sample.traceData .jaegerThrift, Sample.traceData .jaegerProto] ∧
    (final SinkMode.accept.consumer modestLimits {} mixedRun).batches =
      [Sample.traceData .jaegerThrift, Sample.traceData .jaegerProto] ∧
    ∀ x ∈ run (SinkMode.capacity 2).consumer modestLimits {} mixedRun,
      x.answer.ClientError ↔ ∀ o, ¬ x.request.Yields o := by
  have hreaches : ∀ r ∈ mixedRun, r.Reaches modestLimits := by decide +kernel
  have hbatches : mixedRun.filterMap Submission.batch? =
      [Sample.traceData .jaegerThrift, Sample.traceData .jaegerProto] := by decide +kernel
  obtain ⟨hcalls, -, -, -, hanswers, hkept⟩ :=
    delivery_of_run (SinkMode.capacity 2).consumer modestLimits {} hreaches
  refine ⟨hreaches, hbatches, ?_, ?_, fun x hx => (hanswers x hx).2.2⟩
  · rw [hcalls, hbatches]
  · rw [hkept, hbatches]
    rfl

end Collector

end SpanIntake

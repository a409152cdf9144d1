/-
**What is lifted, and what is put back.**

Three of the reserved keys leave the attributes when a span comes in, if they can be interpreted,
and the message in any case; the error flag stays.  Going out, status and kind are put behind the
attributes, and of two pairs with one key the later one counts.  Lifting once more therefore gives
the same status and kind, but for two things: success is not written down, so that an error flag
among the attributes turns it into an unknown failure; and the code of a failure is written over a
code that could not be interpreted, which is then lost.

Main definitions:

* `Reserved.code?`, `Reserved.kind?`, `Reserved.isFlagged` — what attributes say about code, kind
  and error;
* `Reserved.Lifted.Settled` — there is nothing left to lift;
* `Reserved.Lifted.pairs` — the attributes with the reserved tags behind them;
* `Reserved.Lifted.normal` — what becomes of them when they are lifted again;
* `Reserved.Agreeing` — the code does not stand against an error that is flagged.

Main results:

* `Reserved.settled_lift` — lifting leaves nothing to lift;
* `Reserved.Lifted.get?_normal` — the attributes of the normal form, key by key;
* `Reserved.lift_pairs` — **lifting what was put back gives the normal form**;
* `Reserved.normal_lift_eq_self_iff` — **with an error flag it is what was put back exactly if code
  and flag agree**.
-/

import Mathlib.Logic.Basic
import Mathlib.Tactic.SplitIfs
import SpanIntake.Proofs.Trace.Attributes
import SpanIntake.Trace.Reserved

set_option relaxedAutoImplicit false
set_option autoImplicit false

namespace SpanIntake.Reserved

/-! ### What attributes say -/

/-- The code that attributes state. -/
def code? (a : Attributes) : Option StatusCode := (a.get? statusCode).bind interpretCode?

/-- The kind that attributes state. -/
def kind? (a : Attributes) : Option SpanKind := (a.get? spanKind).bind interpretKind?

/-- The message that attributes state, in its text. -/
def message (a : Attributes) : String :=
  ((a.get? statusMessage).map AttributeValue.toText).getD ""

/-- Whether attributes say that there was an error. -/
def isFlagged (a : Attributes) : Bool := (a.get? error).any isTruthy

/-- Where no code is stated, the error flag decides. -/
def codeOf (a : Attributes) : StatusCode :=
  (code? a).getD (if isFlagged a then .unknown else .ok)

/-- The attributes without what is lifted out of them. -/
def leftover (a : Attributes) : Attributes :=
  let b := (if (code? a).isSome then a.erase statusCode else a).erase statusMessage
  if (kind? a).isSome then b.erase spanKind else b

/-! ### Lifting by keys -/

theorem get?_erase_if (c : Bool) (a : Attributes) (key other : String) :
    (if c then a.erase key else a).get? other =
      if other = key ∧ c = true then none else a.get? other := by
  cases c with
  | true => simp [Attributes.get?_erase]
  | false => simp

/-- What is lifted is read off the attributes as they come: no key that is taken out before is
looked up. -/
theorem lift_eq (a : Attributes) :
    lift a = ⟨⟨codeOf a, message a⟩, (kind? a).getD .unspecified, leftover a⟩ := by
  have hcode : ∀ key, key ≠ statusCode →
      (if (code? a).isSome then a.erase statusCode else a).get? key = a.get? key := by
    intro key hkey
    rw [get?_erase_if, if_neg fun h => hkey h.1]
  have hmessage : ∀ key, key ≠ statusCode → key ≠ statusMessage →
      ((if (code? a).isSome then a.erase statusCode else a).erase statusMessage).get? key =
        a.get? key := by
    intro key hkey hkey'
    rw [Attributes.get?_erase, if_neg hkey', hcode key hkey]
  unfold lift
  simp only [← code?.eq_1]
  rw [hcode statusMessage (by decide), hmessage error (by decide) (by decide),
    hmessage spanKind (by decide) (by decide)]
  rfl

theorem get?_leftover (a : Attributes) (key : String) :
    (leftover a).get? key =
      if key = spanKind ∧ (kind? a).isSome ∨ key = statusMessage ∨
        key = statusCode ∧ (code? a).isSome then none else a.get? key := by
  simp only [leftover]
  rw [get?_erase_if, Attributes.get?_erase, get?_erase_if, ite_or, ite_or]

theorem get?_leftover_statusCode (a : Attributes) :
    (leftover a).get? statusCode = if (code? a).isSome then none else a.get? statusCode := by
  rw [get?_leftover]
  simp +decide

theorem get?_leftover_spanKind (a : Attributes) :
    (leftover a).get? spanKind = if (kind? a).isSome then none else a.get? spanKind := by
  rw [get?_leftover]
  simp +decide

/-- The error flag always stays. -/
theorem get?_leftover_error (a : Attributes) : (leftover a).get? error = a.get? error := by
  rw [get?_leftover, if_neg]
  rintro (⟨hkey, _⟩ | hkey | ⟨hkey, _⟩) <;> exact absurd hkey (by decide)

/-! ### Nothing left to lift -/

/-- There is nothing left to lift: no code and no kind is stated among the attributes, no message
is there, and a kind that was lifted has left no attribute behind. -/
structure Lifted.Settled (l : Lifted) : Prop where
  /-- No code is stated. -/
  code : code? l.attributes = none
  /-- There is no message. -/
  message : l.attributes.get? statusMessage = none
  /-- No kind is stated. -/
  kind : kind? l.attributes = none
  /-- A kind that was lifted has left its key free. -/
  free : l.kind ≠ .unspecified → l.attributes.get? spanKind = none

/-- **Lifting leaves nothing to lift.** -/
theorem settled_lift (a : Attributes) : (lift a).Settled := by
  rw [lift_eq]
  refine ⟨?_, ?_, ?_, ?_⟩
  · show ((leftover a).get? statusCode).bind interpretCode? = none
    rw [get?_leftover_statusCode]
    cases h : code? a with
    | some c => rfl
    | none => exact h
  · show (leftover a).get? statusMessage = none
    rw [get?_leftover, if_pos (.inr (.inl rfl))]
  · show ((leftover a).get? spanKind).bind interpretKind? = none
    rw [get?_leftover_spanKind]
    cases h : kind? a with
    | some k => rfl
    | none => exact h
  · show (kind? a).getD .unspecified ≠ .unspecified → (leftover a).get? spanKind = none
    intro hstated
    rw [get?_leftover_spanKind]
    cases h : kind? a with
    | some k => rfl
    | none => rw [h] at hstated; exact absurd rfl hstated

/-! ### Putting back -/

/-- The attributes with the reserved tags behind them. -/
def Lifted.pairs (l : Lifted) : List (String × AttributeValue) :=
  l.attributes.entries ++ tags l.status l.kind l.attributes

/-- Attributes of a failure as they come back: with an error flag, and without a code. -/
def flagFailure (a : Attributes) : Attributes :=
  (if a.contains error then a else a.insert error (.bool true)).erase statusCode

/-- What becomes of status, kind and attributes that were put back and are lifted again.  Success
is written as nothing, so that the error flag decides; a failure is written as a code, in the place
of one that could not be interpreted, and as an error flag, unless there is one. -/
def Lifted.normal (l : Lifted) : Lifted :=
  if l.status.isOk then
    { l with status.code := if isFlagged l.attributes then .unknown else .ok }
  else { l with attributes := flagFailure l.attributes }

theorem get?_flagFailure (a : Attributes) (key : String) :
    (flagFailure a).get? key =
      if key = statusCode then none
      else if key = error ∧ a.contains error = false then some (.bool true) else a.get? key := by
  rw [flagFailure, Attributes.get?_erase]
  cases hcontains : a.contains error with
  | true => simp
  | false => simp [Attributes.get?_insert]

theorem Lifted.kind_normal (l : Lifted) : l.normal.kind = l.kind := by
  unfold Lifted.normal
  split
  · rfl
  · rfl

theorem Lifted.message_normal (l : Lifted) : l.normal.status.message = l.status.message := by
  unfold Lifted.normal
  split
  · rfl
  · rfl

/-- A failure loses its code among the attributes and gains an error flag where there is none; every
other attribute is left alone. -/
theorem Lifted.get?_normal (l : Lifted) (key : String) :
    l.normal.attributes.get? key =
      if key = statusCode ∧ l.status.isOk = false then none
      else if key = error ∧ (l.status.isOk || l.attributes.contains error) = false then
        some (.bool true)
      else l.attributes.get? key := by
  unfold Lifted.normal
  cases hok : l.status.isOk with
  | true => simp
  | false => simp [get?_flagFailure]

/-- The tags as four pieces of one pair at most. -/
theorem tags_eq (status : Status) (kind : SpanKind) (a : Attributes) :
    tags status kind a =
      (if status.isOk then [] else [(statusCode, .int (Int64.ofNat status.code.code))])
        ++ (if status.message.isEmpty then [] else [(statusMessage, .text status.message)])
        ++ (if status.isOk || a.contains error then [] else [(error, .bool true)])
        ++ (kind.name?.map fun name => (spanKind, .text name)).toList := by
  cases kind with
  | unspecified | client | server | producer | consumer => rfl

theorem get?_ofList_unless (c : Bool) (x : String × AttributeValue) (key : String) :
    (Attributes.ofList (if c then [] else [x])).get? key =
      if key = x.1 ∧ c = false then some x.2 else none := by
  cases c with
  | true => simp [Attributes.get?_ofList_nil]
  | false => simp [Attributes.get?_ofList_singleton]

theorem get?_ofList_toList (key' : String) (o : Option AttributeValue) (key : String) :
    (Attributes.ofList (o.map fun v => (key', v)).toList).get? key =
      if key = key' then o else none := by
  cases o with
  | none => exact (ite_self none).symm
  | some v => exact Attributes.get?_ofList_singleton (key', v) key

/-- The value of a key behind the attributes: a reserved tag, or else the attribute. -/
theorem get?_pairs (l : Lifted) (key : String) :
    (Attributes.ofList l.pairs).get? key =
      if key = spanKind then (l.kind.name?.map .text).or (l.attributes.get? key)
      else if key = error ∧ (l.status.isOk || l.attributes.contains error) = false then
        some (.bool true)
      else if key = statusMessage ∧ l.status.message.isEmpty = false then
        some (.text l.status.message)
      else if key = statusCode ∧ l.status.isOk = false then
        some (.int (Int64.ofNat l.status.code.code))
      else l.attributes.get? key := by
  have hkind : (l.kind.name?.map fun name => (spanKind, AttributeValue.text name)) =
      (l.kind.name?.map AttributeValue.text).map fun v => (spanKind, v) := by
    rw [Option.map_map]
    rfl
  rw [Lifted.pairs, tags_eq, hkind, Attributes.get?_ofList_append, Attributes.get?_ofList_append,
    Attributes.get?_ofList_append, Attributes.get?_ofList_append, get?_ofList_unless,
    get?_ofList_unless, get?_ofList_unless, get?_ofList_toList, Attributes.ofList_entries]
  by_cases hk : key = spanKind
  · subst hk
    simp +decide
  · rw [if_neg hk, if_neg hk, Option.none_or]
    split_ifs <;> simp

/-! ### Lifting again -/

theorem interpretCode?_code (c : StatusCode) :
    interpretCode? (.int (Int64.ofNat c.code)) = some c := by
  cases c <;> rfl

theorem interpretKind?_name {k : SpanKind} {name : String} (h : k.name? = some name) :
    interpretKind? (.text name) = some k :=
  SpanKind.ofName?_eq_some_iff.2 h

/-- The code of a failure is stated, success is not. -/
theorem code?_pairs {l : Lifted} (h : l.Settled) :
    code? (Attributes.ofList l.pairs) = if l.status.isOk then none else some l.status.code := by
  rw [code?, get?_pairs, if_neg (by decide), if_neg fun hkey => absurd hkey.1 (by decide),
    if_neg fun hkey => absurd hkey.1 (by decide)]
  cases hok : l.status.isOk with
  | true => exact h.code
  | false => exact interpretCode?_code l.status.code

theorem message_pairs {l : Lifted} (h : l.Settled) :
    message (Attributes.ofList l.pairs) = l.status.message := by
  rw [message, get?_pairs, if_neg (by decide), if_neg fun hkey => absurd hkey.1 (by decide)]
  cases hempty : l.status.message.isEmpty with
  | true =>
      rw [if_neg (by simp), if_neg fun hkey => absurd hkey.1 (by decide), h.message]
      exact (String.isEmpty_iff.1 hempty).symm
  | false => rw [if_pos ⟨rfl, rfl⟩]; rfl

theorem kind?_pairs {l : Lifted} (h : l.Settled) :
    kind? (Attributes.ofList l.pairs) = if l.kind = .unspecified then none else some l.kind := by
  rw [kind?, get?_pairs, if_pos rfl]
  cases hname : l.kind.name? with
  | none =>
      have hkind : l.kind = .unspecified := by
        cases hk : l.kind <;> simp [hk, SpanKind.name?] at hname ⊢
      rw [if_pos hkind]
      exact h.kind
  | some name =>
      have hkind : l.kind ≠ .unspecified := by
        intro hk
        rw [hk] at hname
        cases hname
      rw [if_neg hkind]
      exact interpretKind?_name hname

theorem get?_error_pairs {l : Lifted} (hok : l.status.isOk = true) :
    (Attributes.ofList l.pairs).get? error = l.attributes.get? error := by
  rw [get?_pairs, if_neg (by decide), if_neg (by simp [hok]),
    if_neg fun hkey => absurd hkey.1 (by decide), if_neg fun hkey => absurd hkey.1 (by decide)]

/-- What remains of the attributes and the tags behind them are the attributes of the normal form. -/
theorem leftover_pairs {l : Lifted} (h : l.Settled) :
    leftover (Attributes.ofList l.pairs) = l.normal.attributes := by
  refine Attributes.ext_get? fun key => ?_
  rw [get?_leftover, code?_pairs h, kind?_pairs h, get?_pairs, l.get?_normal]
  -- each key that is lifted has a case of its own, and all others are left alone
  by_cases hkind : key = spanKind
  · subst hkind
    by_cases hstated : l.kind = .unspecified
    · simp +decide [hstated, SpanKind.name?]
    · simp +decide [hstated, h.free hstated]
  · by_cases hmessage : key = statusMessage
    · subst hmessage
      simp +decide [h.message]
    · by_cases hcode : key = statusCode
      · subst hcode
        cases hok : l.status.isOk <;> simp +decide
      · simp [hkind, hmessage, hcode]

/-- Where success is not written down, the error flag decides. -/
theorem codeOf_pairs {l : Lifted} (h : l.Settled) :
    codeOf (Attributes.ofList l.pairs) = l.normal.status.code := by
  rw [codeOf, code?_pairs h, Lifted.normal]
  cases hok : l.status.isOk with
  | true => rw [isFlagged, get?_error_pairs hok]; rfl
  | false => rfl

theorem kindOf_pairs {l : Lifted} (h : l.Settled) :
    (kind? (Attributes.ofList l.pairs)).getD .unspecified = l.kind := by
  rw [kind?_pairs h]
  by_cases hstated : l.kind = .unspecified
  · rw [if_pos hstated, hstated]; rfl
  · rw [if_neg hstated]; rfl

/-- **Lifting what was put back gives the normal form.** -/
theorem lift_pairs {l : Lifted} (h : l.Settled) :
    lift (Attributes.ofList l.pairs) = l.normal := by
  rw [lift_eq, codeOf_pairs h, message_pairs h, kindOf_pairs h, leftover_pairs h,
    ← l.message_normal, ← l.kind_normal]

/-! ### What comes back as it was -/

/-- The code does not stand against an error that is flagged: there is none, or it states a
failure. -/
def Agreeing (a : Attributes) : Prop :=
  isFlagged a = true → a.get? statusCode = none ∨ ∃ c, c ≠ .ok ∧ code? a = some c

theorem flagFailure_eq_self_iff (a : Attributes) :
    flagFailure a = a ↔ a.contains error = true ∧ a.get? statusCode = none := by
  constructor
  · intro h
    constructor
    · cases hcontains : a.contains error with
      | true => rfl
      | false =>
          have herror := get?_flagFailure a error
          rw [h, if_neg (by decide), if_pos ⟨rfl, hcontains⟩] at herror
          rw [Attributes.contains, herror] at hcontains
          cases hcontains
    · have hcode := get?_flagFailure a statusCode
      rwa [h, if_pos rfl] at hcode
  · rintro ⟨hcontains, hcode⟩
    refine Attributes.ext_get? fun key => ?_
    rw [get?_flagFailure, hcontains]
    by_cases hkey : key = statusCode
    · rw [if_pos hkey, hkey, hcode]
    · rw [if_neg hkey, if_neg (by simp)]

/-- Success comes back where no error is flagged, and failure where one is and no code is left. -/
theorem Lifted.normal_eq_self_iff (l : Lifted) :
    l.normal = l ↔
      if l.status.isOk then isFlagged l.attributes = false
      else l.attributes.contains error = true ∧ l.attributes.get? statusCode = none := by
  obtain ⟨⟨code, message⟩, kind, a⟩ := l
  -- what can change is the code of a success and the attributes of a failure
  by_cases hok : code = .ok
  · subst hok
    rw [if_pos (show (Status.mk .ok message).isOk = true by rfl), Lifted.normal,
      if_pos (show (Status.mk .ok message).isOk = true by rfl)]
    cases isFlagged a <;> simp
  · have hisOk : ¬ (Status.mk code message).isOk = true := by simpa [Status.isOk] using hok
    rw [if_neg hisOk, Lifted.normal, if_neg hisOk, ← flagFailure_eq_self_iff]
    simp

/-- **What is lifted off tags with an error flag comes back as it was exactly if code and flag
agree.** -/
theorem normal_lift_eq_self_iff {a : Attributes} (h : a.contains error = true) :
    (lift a).normal = lift a ↔ Agreeing a := by
  have hflagged : isFlagged (leftover a) = isFlagged a := by
    rw [isFlagged, get?_leftover_error, isFlagged]
  have hcontains : (leftover a).contains error = true := by
    rwa [Attributes.contains, get?_leftover_error]
  rw [Lifted.normal_eq_self_iff, lift_eq, Agreeing]
  simp only [hflagged, hcontains, get?_leftover_statusCode, codeOf, Status.isOk]
  cases hstated : code? a with
  | none => cases isFlagged a <;> simp
  | some c =>
      by_cases hok : c = .ok
      · -- a code that is interpreted was there
        have hcode : a.get? statusCode ≠ none := by
          intro hnone
          rw [code?, hnone] at hstated
          cases hstated
        simp [hok, hcode]
      · simp [hok]

end SpanIntake.Reserved

/-
**What is lifted and what stays make up the attributes.**

Every attribute that comes in either stays with its value, or is lifted and then counts as status or
kind: there is no third way, and nothing is made up.  Code and kind are lifted exactly if they can
be interpreted, the message always, and no other key ever.  What stays has nothing more to lift, so
that lifting it changes none of it, and the error flag alone decides the code.

Main definitions:

* `Reserved.Lifted.Splits` — status, kind and remaining attributes are a division of attributes.

Main results:

* `Reserved.splits_lift`, `Reserved.Lifted.Splits.eq` — lifting is such a division, and there is no
  other;
* `Reserved.lift_of_settled` — lifting where there is nothing left to lift;
* `Reserved.splits_iff_eq_lift` — **attributes are divided by lifting, once and for all**.
-/

import SpanIntake.Proofs.Trace.Lifting

set_option relaxedAutoImplicit false
set_option autoImplicit false

namespace SpanIntake.Reserved

/-! ### Divisions of attributes -/

/-- Status, kind and remaining attributes are a division of attributes. -/
structure Lifted.Splits (l : Lifted) (a : Attributes) : Prop where
  /-- Every key stays with its value, the three that are lifted apart: so does the error flag. -/
  others : ∀ key, key ≠ statusCode → key ≠ statusMessage → key ≠ spanKind →
    l.attributes.get? key = a.get? key
  /-- No key is new, and none has a new value. -/
  old : ∀ key v, l.attributes.get? key = some v → a.get? key = some v
  /-- A code is taken out exactly if it can be interpreted. -/
  code_out : ∀ v, a.get? statusCode = some v →
    (l.attributes.get? statusCode = none ↔ ∃ c, interpretCode? v = some c)
  /-- A code that can be interpreted is the code. -/
  code_stated : ∀ v c, a.get? statusCode = some v → interpretCode? v = some c → l.status.code = c
  /-- Where there is none the error flag decides. -/
  code_flagged : (∀ v, a.get? statusCode = some v → interpretCode? v = none) →
    l.status.code = if isFlagged a then .unknown else .ok
  /-- A message is taken out. -/
  message_out : l.attributes.get? statusMessage = none
  /-- Its text is the message. -/
  message_stated : ∀ v, a.get? statusMessage = some v → l.status.message = v.toText
  /-- Where there is none the message is empty. -/
  message_empty : a.get? statusMessage = none → l.status.message = ""
  /-- A kind is taken out exactly if it is the name of one. -/
  kind_out : ∀ v, a.get? spanKind = some v →
    (l.attributes.get? spanKind = none ↔ ∃ k name, v = .text name ∧ SpanKind.name? k = some name)
  /-- A name of a kind gives the kind. -/
  kind_stated : ∀ k name, a.get? spanKind = some (.text name) → SpanKind.name? k = some name →
    l.kind = k
  /-- Where there is none the kind is not specified. -/
  kind_unstated : (∀ k name, a.get? spanKind = some (.text name) → SpanKind.name? k ≠ some name) →
    l.kind = .unspecified

theorem interpretKind?_eq_some_iff {v : AttributeValue} {k : SpanKind} :
    interpretKind? v = some k ↔ ∃ name, v = .text name ∧ k.name? = some name := by
  rw [interpretKind?, Option.bind_eq_some_iff]
  constructor
  · rintro ⟨name, htext, hname⟩
    refine ⟨name, ?_, SpanKind.ofName?_eq_some_iff.1 hname⟩
    cases v with
    | text s => rw [AttributeValue.text?] at htext; rw [Option.some.inj htext]
    | bool | int | double | bytes => cases htext
  · rintro ⟨name, rfl, hname⟩
    exact ⟨name, rfl, SpanKind.ofName?_eq_some_iff.2 hname⟩

theorem code?_of_get? {a : Attributes} {v : AttributeValue} (h : a.get? statusCode = some v) :
    code? a = interpretCode? v := by
  rw [code?, h]
  rfl

theorem kind?_of_get? {a : Attributes} {v : AttributeValue} (h : a.get? spanKind = some v) :
    kind? a = interpretKind? v := by
  rw [kind?, h]
  rfl

/-- What is taken out if something is stated is gone exactly if it is stated. -/
theorem ite_isSome_eq_none_iff {α β : Type} {stated : Option α} {o : Option β} {v : β}
    (h : o = some v) : (if stated.isSome then none else o) = none ↔ ∃ x, stated = some x := by
  cases stated <;> simp [h]

/-- **Lifting divides attributes.** -/
theorem splits_lift (a : Attributes) : (lift a).Splits a := by
  rw [lift_eq]
  constructor
  case others =>
    intro key hcode hmessage hkind
    show (leftover a).get? key = a.get? key
    rw [get?_leftover, if_neg]
    rintro (⟨hkey, _⟩ | hkey | ⟨hkey, _⟩)
    · exact hkind hkey
    · exact hmessage hkey
    · exact hcode hkey
  case old =>
    intro key v hv
    have hv : (leftover a).get? key = some v := hv
    rw [get?_leftover] at hv
    split at hv
    · cases hv
    · exact hv
  case code_out =>
    intro v hv
    show (leftover a).get? statusCode = none ↔ _
    rw [get?_leftover_statusCode, ite_isSome_eq_none_iff hv, code?_of_get? hv]
  case code_stated =>
    intro v c hv hc
    show codeOf a = c
    rw [codeOf, code?_of_get? hv, hc]
    rfl
  case code_flagged =>
    intro hnone
    have hcode : code? a = none := Option.bind_eq_none_iff.2 hnone
    show codeOf a = _
    rw [codeOf, hcode]
    rfl
  case message_out =>
    show (leftover a).get? statusMessage = none
    rw [get?_leftover, if_pos (.inr (.inl rfl))]
  case message_stated =>
    intro v hv
    show message a = v.toText
    rw [message, hv]
    rfl
  case message_empty =>
    intro hnone
    show message a = ""
    rw [message, hnone]
    rfl
  case kind_out =>
    intro v hv
    show (leftover a).get? spanKind = none ↔ _
    rw [get?_leftover_spanKind, ite_isSome_eq_none_iff hv, kind?_of_get? hv]
    simp only [interpretKind?_eq_some_iff]
  case kind_stated =>
    intro k name hv hname
    show (kind? a).getD .unspecified = k
    rw [kind?_of_get? hv, interpretKind?_eq_some_iff.2 ⟨name, rfl, hname⟩]
    rfl
  case kind_unstated =>
    intro hnone
    have hkind : kind? a = none := by
      refine Option.bind_eq_none_iff.2 fun v hv => Option.eq_none_iff_forall_ne_some.2 fun k hk => ?_
      obtain ⟨name, rfl, hname⟩ := interpretKind?_eq_some_iff.1 hk
      exact hnone k name hv hname
    show (kind? a).getD .unspecified = .unspecified
    rw [hkind]
    rfl

/-! ### One division -/

/-- Two values that are the old one, or are gone under the same condition, are the same. -/
theorem eq_of_out_iff {o p q : Option AttributeValue} {P : AttributeValue → Prop}
    (ho : ∀ v, o = some v → q = some v) (hp : ∀ v, p = some v → q = some v)
    (hout : ∀ v, q = some v → (o = none ↔ P v)) (hout' : ∀ v, q = some v → (p = none ↔ P v)) :
    o = p := by
  cases o with
  | some v =>
      have hq := ho v rfl
      cases p with
      | some w => rw [← hq, hp w rfl]
      | none => exact absurd ((hout v hq).2 ((hout' v hq).1 rfl)) (by simp)
  | none =>
      cases p with
      | some w =>
          have hq := hp w rfl
          exact absurd ((hout' w hq).2 ((hout w hq).1 rfl)) (by simp)
      | none => rfl

/-- **There is one division of attributes.** -/
theorem Lifted.Splits.eq {l m : Lifted} {a : Attributes} (hl : l.Splits a) (hm : m.Splits a) :
    l = m := by
  have hattributes : l.attributes = m.attributes := by
    refine Attributes.ext_get? fun key => ?_
    by_cases hcode : key = statusCode
    · subst hcode
      exact eq_of_out_iff (hl.old _) (hm.old _) hl.code_out hm.code_out
    · by_cases hmessage : key = statusMessage
      · rw [hmessage, hl.message_out, hm.message_out]
      · by_cases hkind : key = spanKind
        · subst hkind
          exact eq_of_out_iff (hl.old _) (hm.old _) hl.kind_out hm.kind_out
        · rw [hl.others key hcode hmessage hkind, hm.others key hcode hmessage hkind]
  have hcode : l.status.code = m.status.code := by
    by_cases hstated : ∃ v c, a.get? statusCode = some v ∧ interpretCode? v = some c
    · obtain ⟨v, c, hv, hc⟩ := hstated
      rw [hl.code_stated v c hv hc, hm.code_stated v c hv hc]
    · have hnone : ∀ v, a.get? statusCode = some v → interpretCode? v = none := by
        intro v hv
        exact Option.eq_none_iff_forall_ne_some.2 fun c hc => hstated ⟨v, c, hv, hc⟩
      rw [hl.code_flagged hnone, hm.code_flagged hnone]
  have hmessage : l.status.message = m.status.message := by
    cases hget : a.get? statusMessage with
    | none => rw [hl.message_empty hget, hm.message_empty hget]
    | some v => rw [hl.message_stated v hget, hm.message_stated v hget]
  have hkind : l.kind = m.kind := by
    by_cases hstated : ∃ k name, a.get? spanKind = some (.text name) ∧
        SpanKind.name? k = some name
    · obtain ⟨k, name, hv, hname⟩ := hstated
      rw [hl.kind_stated k name hv hname, hm.kind_stated k name hv hname]
    · have hnone : ∀ k name, a.get? spanKind = some (.text name) →
          SpanKind.name? k ≠ some name :=
        fun k name hv hname => hstated ⟨k, name, hv, hname⟩
      rw [hl.kind_unstated hnone, hm.kind_unstated hnone]
  obtain ⟨⟨_, _⟩, _, _⟩ := l
  obtain ⟨⟨_, _⟩, _, _⟩ := m
  cases hattributes
  cases hcode
  cases hmessage
  cases hkind
  rfl

/-! ### Lifting what stays -/

/-- **Where there is nothing left to lift the attributes stay as they are**, and the error flag
alone decides the code. -/
theorem lift_of_settled {l : Lifted} (h : l.Settled) :
    lift l.attributes =
      ⟨⟨if isFlagged l.attributes then .unknown else .ok, ""⟩, .unspecified, l.attributes⟩ := by
  have hcode : codeOf l.attributes = if isFlagged l.attributes then .unknown else .ok := by
    rw [codeOf, h.code]
    rfl
  have hmessage : message l.attributes = "" := by
    rw [message, h.message]
    rfl
  have hleftover : leftover l.attributes = l.attributes := by
    refine Attributes.ext_get? fun key => ?_
    rw [get?_leftover, h.code, h.kind]
    by_cases hkey : key = statusMessage
    · rw [if_pos (.inr (.inl hkey)), hkey, h.message]
    · rw [if_neg]
      rintro (⟨_, hsome⟩ | hkey' | ⟨_, hsome⟩)
      · cases hsome
      · exact hkey hkey'
      · cases hsome
  rw [lift_eq, hcode, hmessage, hleftover, h.kind]
  rfl

/-- **Attributes are divided by lifting, once and for all**: lifting gives the one division there
is, and lifting what stays takes nothing out of it. -/
theorem splits_iff_eq_lift (a : Attributes) :
    (∀ l : Lifted, l.Splits a ↔ l = lift a) ∧
      lift (lift a).attributes =
        ⟨⟨if isFlagged (lift a).attributes then .unknown else .ok, ""⟩, .unspecified,
          (lift a).attributes⟩ := by
  refine ⟨fun l => ⟨fun h => h.eq (splits_lift a), ?_⟩, lift_of_settled (settled_lift a)⟩
  rintro rfl
  exact splits_lift a

end SpanIntake.Reserved

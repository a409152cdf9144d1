/-
**Fields of messages, written and read.**

A message is written field by field, and a field with its default value is left out.  It is read by
a field loop that takes a message in the making from one state to the next.  So the law of a writer
speaks of two states: reading what was written leads from the one to the other, and where nothing
was written they are the same.  Laws of this kind compose as the writers do, one field behind
another, and turn into a law of a nested message, which is written behind its length.

Main definitions:

* `Protobuf.Reads` — a reader takes exactly the given bytes off and gives a value;
* `Protobuf.Leads` — the field loop reads bytes from one state to another;
* `Protobuf.Fills` — the same for bytes that a memory can hold, whose lengths fit their words.

Main results:

* `Protobuf.reads_varint`, `Protobuf.reads_key` — numbers and keys are read back;
* `Protobuf.Leads.run_fieldsUpTo` — the field loop stops right behind the bytes;
* `Protobuf.Fills.append` — fields behind one another;
* `Protobuf.Fills.nat`, `Protobuf.Fills.message`, `Protobuf.Fills.messages` and their like — **a
  field of each kind**, absent, single or repeated.
-/

import SpanIntake.Protobuf.Codec

set_option relaxedAutoImplicit false
set_option autoImplicit false

namespace SpanIntake.Protobuf

variable {α β σ τ : Type}

/-! ### Readers -/

/-- Whatever follows the bytes, the reader takes exactly them off and gives a value. -/
def Reads (r : Reader α) (bs : Bytes) (x : α) : Prop := ∀ rest, r.run (bs ++ rest) = .ok (x, rest)

theorem Reads.pure (x : α) : Reads (pure x : Reader α) [] x := fun _ => rfl

/-- Reading one thing after another. -/
theorem Reads.bind {r : Reader α} {f : α → Reader β} {bs cs : Bytes} {x : α} {y : β}
    (hr : Reads r bs x) (hf : Reads (f x) cs y) : Reads (r >>= f) (bs ++ cs) y := by
  intro rest
  rw [StateT.run_bind, List.append_assoc, hr (cs ++ rest)]
  exact hf rest

/-- Going on without reading. -/
theorem Reads.bind_nil {r : Reader α} {f : α → Reader β} {bs : Bytes} {x : α} {y : β}
    (hr : Reads r bs x) (hf : Reads (f x) [] y) : Reads (r >>= f) bs y := by
  have h := hr.bind hf
  rwa [List.append_nil] at h

/-- Reading on after nothing was taken. -/
theorem Reads.nil_bind {r : Reader α} {f : α → Reader β} {bs : Bytes} {x : α} {y : β}
    (hr : Reads r [] x) (hf : Reads (f x) bs y) : Reads (r >>= f) bs y :=
  hr.bind hf

theorem Reads.map {r : Reader α} {bs : Bytes} {x : α} (hr : Reads r bs x) (f : α → β) :
    Reads (r >>= fun x => Pure.pure (f x)) bs (f x) :=
  hr.bind_nil (.pure (f x))

/-- The place of an error means nothing where there is none. -/
theorem Reads.inField {r : Reader α} {bs : Bytes} {x : α} (hr : Reads r bs x)
    (record field : String) : Reads (inField record field r) bs x := by
  intro rest
  have hrun : r (bs ++ rest) = .ok (x, rest) := hr rest
  rw [StateT.run, Protobuf.inField, hrun]

theorem reads_varint {n : Nat} (h : n < UInt64.size) : Reads varint (writeVarint n) n := by
  intro rest
  simp only [varint, StateT.run_bind, StateT.run_get, pure_bind, takeVarint_writeVarint n rest h]
  rfl

theorem ofCode?_code (type : WireType) : WireType.ofCode? type.code = some type := by
  cases type <;> rfl

/-- The numbers that a field may have. -/
def IsTag (tag : Nat) : Prop := 0 < tag ∧ tag < 536870912

instance (tag : Nat) : Decidable (IsTag tag) := inferInstanceAs (Decidable (_ ∧ _))

theorem reads_key {tag : Nat} (htag : IsTag tag) (type : WireType) :
    Reads key (writeKey tag type) (tag, type) := by
  have hcode : type.code < 8 := by cases type <;> decide
  obtain ⟨hpos, hlt⟩ := htag
  have hsize : UInt32.size = 4294967296 := rfl
  have hkey : tag * 8 + type.code < UInt64.size := by
    have hsize64 : UInt64.size = 18446744073709551616 := rfl
    omega
  have hmod : (tag * 8 + type.code) % 8 = type.code := by omega
  have hdiv : (tag * 8 + type.code) / 8 = tag := by omega
  refine Reads.bind_nil (reads_varint hkey) ?_
  rw [if_neg (by omega), hmod, ofCode?_code, hdiv]
  show Reads (if tag = 0 then _ else _) _ _
  rw [if_neg (by omega)]
  exact .pure _

theorem reads_take (bs : Bytes) : Reads (take bs.length) bs bs := by
  intro rest
  simp only [take, StateT.run_bind, StateT.run_get, pure_bind, Bytes.split?_append]
  rfl

/-! ### The field loop -/

theorem length_writeVarintUpTo_pos (more n : Nat) : 0 < (writeVarintUpTo more n).length := by
  cases more with
  | zero => exact Nat.one_pos
  | succ more =>
      rw [writeVarintUpTo]
      split <;> exact Nat.succ_pos _

theorem length_writeKey_pos (tag : Nat) (type : WireType) : 0 < (writeKey tag type).length :=
  length_writeVarintUpTo_pos 9 _

/-- The field loop reads bytes from one state to another. -/
inductive Leads (step : σ → Nat → WireType → Reader σ) : Bytes → σ → σ → Prop
  | nil (s : σ) : Leads step [] s s
  | cons {tag : Nat} {type : WireType} {value bs : Bytes} {s t u : σ} (htag : IsTag tag)
      (first : Reads (step s tag type) value t) (more : Leads step bs t u) :
      Leads step (writeKey tag type ++ value ++ bs) s u

theorem fieldsUpTo_length (step : σ → Nat → WireType → Reader σ) (more : Nat) (s : σ)
    (rest : Bytes) : (fieldsUpTo step rest.length more s).run rest = .ok (s, rest) := by
  unfold fieldsUpTo
  simp only [StateT.run_bind, StateT.run_get, pure_bind, Nat.lt_irrefl, if_false, if_true]
  rfl

theorem fieldsUpTo_succ (step : σ → Nat → WireType → Reader σ) {limit : Nat} (more : Nat) (s : σ)
    {bs : Bytes} (h : limit < bs.length) :
    (fieldsUpTo step limit (more + 1) s).run bs =
      (key >>= fun k => step s k.1 k.2 >>= fun s => fieldsUpTo step limit more s).run bs := by
  conv => lhs; unfold fieldsUpTo
  simp only [StateT.run_bind, StateT.run_get, pure_bind, if_neg (Nat.not_lt.2 (Nat.le_of_lt h)),
    if_neg (Nat.ne_of_gt h)]

/-- **The field loop stops right behind the bytes**: every field takes some of them, so that their
number is a bound for the number of fields. -/
theorem Leads.run_fieldsUpTo {step : σ → Nat → WireType → Reader σ} {bs : Bytes} {s t : σ}
    (h : Leads step bs s t) (rest : Bytes) :
    ∀ more, bs.length ≤ more →
      (fieldsUpTo step rest.length more s).run (bs ++ rest) = .ok (t, rest) := by
  induction h with
  | nil s => exact fun more _ => fieldsUpTo_length step more s rest
  | @cons tag type value bs s t u htag first _ ih =>
      intro more hmore
      -- a key has bytes, so that the bound lasts for what follows
      have hkey := length_writeKey_pos tag type
      simp only [List.length_append] at hmore
      obtain ⟨more, rfl⟩ : ∃ k, more = k + 1 := ⟨more - 1, by omega⟩
      have hlimit : rest.length < (writeKey tag type ++ value ++ bs ++ rest).length := by
        simp only [List.length_append]
        omega
      rw [fieldsUpTo_succ step more s hlimit, StateT.run_bind, List.append_assoc, List.append_assoc,
        reads_key htag type]
      show (step s tag type >>= _).run (value ++ (bs ++ rest)) = _
      rw [StateT.run_bind, first]
      exact ih more (by omega)

theorem Leads.append {step : σ → Nat → WireType → Reader σ} {bs cs : Bytes} {s t u : σ}
    (hbs : Leads step bs s t) (hcs : Leads step cs t u) : Leads step (bs ++ cs) s u := by
  induction hbs with
  | nil s => exact hcs
  | cons htag first _ ih =>
      rw [List.append_assoc]
      exact .cons htag first (ih hcs)

/-! ### Bytes that a memory holds -/

/-- The field loop reads bytes from one state to another, if they are no more than a memory can
hold: the lengths of their parts fit their words then. -/
def Fills (step : σ → Nat → WireType → Reader σ) (bs : Bytes) (s t : σ) : Prop :=
  bs.length < UInt64.size → Leads step bs s t

variable {step : σ → Nat → WireType → Reader σ} {s : σ} {tag : Nat}

theorem Fills.nil (s : σ) : Fills step [] s s := fun _ => .nil s

/-- Fields behind one another. -/
theorem Fills.append {bs cs : Bytes} {t u : σ} (hbs : Fills step bs s t)
    (hcs : Fills step cs t u) : Fills step (bs ++ cs) s u := by
  intro hlength
  rw [List.length_append] at hlength
  exact (hbs (by omega)).append (hcs (by omega))

theorem Fills.field {type : WireType} {value : Bytes} {t : σ} (htag : IsTag tag)
    (h : value.length < UInt64.size → Reads (step s tag type) value t) :
    Fills step (writeKey tag type ++ value) s t := by
  intro hlength
  rw [List.length_append] at hlength
  have hone := Leads.cons htag (h (by omega)) (.nil t)
  rwa [List.append_nil] at hone

/-! ### Plain fields -/

variable {record field : String}

/-- A number field, which is left out where it is zero. -/
theorem Fills.nat {read : WireType → Reader α} (put : α → σ) {x : α} {n : Nat}
    (hread : Reads (read .varint) (writeVarint n) x) (hzero : n = 0 → put x = s)
    (htag : IsTag tag)
    (hstep : ∀ type, step s tag type = inField record field do return put (← read type)) :
    Fills step (writeNat tag n) s (put x) := by
  rw [writeNat]
  split
  · rename_i h
    rw [hzero h]
    exact .nil s
  · refine .field htag fun _ => ?_
    rw [hstep]
    exact (hread.map put).inField record field

theorem reads_varintField {n : Nat} (h : n < UInt64.size) :
    Reads (varintField .varint) (writeVarint n) n :=
  Reads.nil_bind (.pure ()) (reads_varint h)

theorem Fills.int64 (put : Int64 → σ) (x : Int64) (hzero : put 0 = s) (htag : IsTag tag)
    (hstep : ∀ type, step s tag type = inField record field do return put (← int64Field type)) :
    Fills step (writeInt64 tag x) s (put x) := by
  refine .nat put ?_ (fun h => ?_) htag hstep
  · have hx := (reads_varintField x.toUInt64.toNat_lt).map fun n => (UInt64.ofNat n).toInt64
    rwa [UInt64.ofNat_toNat, Int64.toInt64_toUInt64] at hx
  · have hword : x.toUInt64 = 0 := UInt64.toNat_inj.1 h
    have hx : x = 0 := by
      rw [← Int64.toInt64_toUInt64 x, hword]
      rfl
    rw [hx, hzero]

/-- The low half of a sign-extended number is the number. -/
theorem toInt32_toInt64 (x : Int32) : (UInt32.ofNat x.toInt64.toUInt64.toNat).toInt32 = x := by
  apply Int32.toBitVec_inj.1
  have hlow : (x.toBitVec.signExtend 64).setWidth 32 = x.toBitVec := by
    apply BitVec.eq_of_getLsbD_eq
    intro i hi
    have hlt : i < 64 := by omega
    simp only [BitVec.getLsbD_setWidth, BitVec.getLsbD_signExtend, hi, hlt, decide_true,
      Bool.true_and, if_true]
  simpa using hlow

/-- A signed number of 32 bits is written with as many as 64, and the ones above are dropped. -/
theorem Fills.int32 (put : Int32 → σ) (x : Int32) (hzero : put 0 = s) (htag : IsTag tag)
    (hstep : ∀ type, step s tag type = inField record field do return put (← int32Field type)) :
    Fills step (writeInt32 tag x) s (put x) := by
  have hlow := toInt32_toInt64 x
  refine .nat put ?_ (fun h => ?_) htag hstep
  · have hx := (reads_varintField x.toInt64.toUInt64.toNat_lt).map fun n =>
      (UInt32.ofNat n).toInt32
    rwa [hlow] at hx
  · have hx : x = 0 := by
      rw [← hlow, h]
      rfl
    rw [hx, hzero]

theorem Fills.uint32 (put : UInt32 → σ) (x : UInt32) (hzero : put 0 = s) (htag : IsTag tag)
    (hstep : ∀ type, step s tag type = inField record field do return put (← uint32Field type)) :
    Fills step (writeUInt32 tag x) s (put x) := by
  have hfits : x.toNat < UInt64.size := Nat.lt_trans x.toNat_lt (by decide)
  refine .nat put ?_ (fun h => ?_) htag hstep
  · have hx := (reads_varintField hfits).map fun n => UInt32.ofNat n
    rwa [UInt32.ofNat_toNat] at hx
  · have hx : x = 0 := UInt32.toNat_inj.1 h
    rw [hx, hzero]

theorem Fills.bool (put : Bool → σ) (x : Bool) (hzero : put false = s) (htag : IsTag tag)
    (hstep : ∀ type, step s tag type = inField record field do return put (← boolField type)) :
    Fills step (writeBool tag x) s (put x) := by
  have hfits : (if x then 1 else 0 : Nat) < UInt64.size := by cases x <;> decide
  refine .nat put ?_ (fun h => ?_) htag hstep
  · have hx := (reads_varintField hfits).map fun n => n != 0
    cases x <;> exact hx
  · cases x with
    | false => exact hzero
    | true => cases h

/-- A double, which is left out where it is a zero of either sign, so that the sign is lost. -/
theorem Fills.double (put : Double → σ) (x : Double) (hzero : put .zero = s) (htag : IsTag tag)
    (hstep : ∀ type, step s tag type = inField record field do return put (← doubleField type)) :
    Fills step (writeDouble tag x) s (put (if x.isZero then .zero else x)) := by
  rw [writeDouble]
  split
  · rw [hzero]
    exact .nil s
  · refine .field htag fun _ => ?_
    have hbytes : Reads (take 8) (Bytes.littleEndian 8 x.bits.toNat)
        (Bytes.littleEndian 8 x.bits.toNat) := by
      simpa using reads_take (Bytes.littleEndian 8 x.bits.toNat)
    have hvalue : Bytes.ofLittleEndian (Bytes.littleEndian 8 x.bits.toNat) = x.bits.toNat := by
      rw [Bytes.ofLittleEndian_littleEndian]
      exact Nat.mod_eq_of_lt x.bits.toNat_lt
    have hx := (hbytes.map Bytes.ofLittleEndian).map fun n => (⟨UInt64.ofNat n⟩ : Double)
    rw [hvalue, UInt64.ofNat_toNat] at hx
    rw [hstep]
    exact (hx.map put).inField record field

theorem reads_bytesField {bs : Bytes} (h : bs.length < UInt64.size) :
    Reads (bytesField .lengthDelimited) (writeVarint bs.length ++ bs) bs :=
  Reads.nil_bind (.pure ()) ((reads_varint h).bind (reads_take bs))

theorem reads_textField {x : String} (h : (Utf8.encode x).length < UInt64.size) :
    Reads (textField .lengthDelimited)
      (writeVarint (Utf8.encode x).length ++ Utf8.encode x) x := by
  refine Reads.bind_nil (reads_bytesField h) ?_
  rw [Utf8.decode_encode]
  exact .pure x

/-- A field behind its length. -/
theorem Fills.delimited {read : WireType → Reader α} (put : α → σ) {x : α} {bs : Bytes}
    (hread : bs.length < UInt64.size →
      Reads (read .lengthDelimited) (writeVarint bs.length ++ bs) x) (htag : IsTag tag)
    (hstep : ∀ type, step s tag type = inField record field do return put (← read type)) :
    Fills step (writeBytesField tag bs) s (put x) := by
  rw [writeBytesField, List.append_assoc]
  refine .field htag fun hlength => ?_
  rw [List.length_append] at hlength
  rw [hstep]
  exact ((hread (by omega)).map put).inField record field

theorem Fills.bytes (put : Bytes → σ) (x : Bytes) (hempty : put [] = s) (htag : IsTag tag)
    (hstep : ∀ type, step s tag type = inField record field do return put (← bytesField type)) :
    Fills step (writeBytes tag x) s (put x) := by
  rw [writeBytes]
  split
  · rename_i h
    rw [List.isEmpty_iff.1 h, hempty]
    exact .nil s
  · exact .delimited put reads_bytesField htag hstep

theorem Fills.text (put : String → σ) (x : String) (hempty : put "" = s) (htag : IsTag tag)
    (hstep : ∀ type, step s tag type = inField record field do return put (← textField type)) :
    Fills step (writeText tag x) s (put x) := by
  rw [writeText]
  split
  · rename_i h
    rw [String.isEmpty_iff.1 h, hempty]
    exact .nil s
  · exact .delimited put reads_textField htag hstep

/-! ### Fields that come again -/

/-- Fields of one number, each of which adds an item to a list. -/
theorem Fills.items {write : β → Bytes} {normal : β → α} (put : List α → σ)
    (hwrite : ∀ x ys, Fills step (write x) (put ys) (put (ys ++ [normal x]))) (xs : List β)
    (ys : List α) : Fills step (xs.flatMap write) (put ys) (put (ys ++ xs.map normal)) := by
  induction xs generalizing ys with
  | nil =>
      rw [List.map_nil, List.append_nil]
      exact .nil _
  | cons x xs ih =>
      have hmore := ih (ys ++ [normal x])
      rw [List.append_assoc] at hmore
      exact (hwrite x ys).append hmore

/-- Texts of one number, the empty ones too. -/
theorem Fills.texts (put : List String → σ) (xs : List String) (htag : IsTag tag)
    (hstep : ∀ ys type, step (put ys) tag type = inField record field do
      return put (ys ++ [← textField type])) :
    Fills step (xs.flatMap (writeTextField tag)) (put []) (put xs) := by
  have h := Fills.items put (fun x ys =>
    .delimited (fun y => put (ys ++ [y])) (reads_textField (x := x)) htag (hstep ys)) xs []
  rwa [List.map_id'] at h

/-! ### Nested messages -/

variable {inner : Nat → τ → Nat → WireType → Reader τ} {depth : Nat}

/-- **A nested message is read back if its fields are.** -/
theorem reads_message {bs : Bytes} {start x : τ} (h : Fills (inner depth) bs start x)
    (hlength : bs.length < UInt64.size) :
    Reads (message inner (depth + 1) .lengthDelimited start) (writeVarint bs.length ++ bs) x := by
  refine Reads.nil_bind (.pure ()) ((reads_varint hlength).bind ?_)
  intro rest
  have hleft : ¬ (bs ++ rest).length < bs.length := by
    rw [List.length_append]
    omega
  have hlimit : (bs ++ rest).length - bs.length = rest.length := by
    rw [List.length_append]
    omega
  simp only [StateT.run_bind, StateT.run_get, pure_bind, if_neg hleft, hlimit]
  exact (h hlength).run_fieldsUpTo rest bs.length (Nat.le_refl _)

/-- A nested message that may be absent. -/
theorem Fills.message {body : β → Bytes} {normal : β → τ} (put : Option τ → σ) {start : τ}
    (x : Option β) (hx : ∀ m, Fills (inner depth) (body m) start (normal m))
    (habsent : put none = s) (htag : IsTag tag)
    (hstep : ∀ type, step s tag type = inField record field do
      return put (some (← Protobuf.message inner (depth + 1) type start))) :
    Fills step (writeMessage tag body x) s (put (x.map normal)) := by
  cases x with
  | none =>
      rw [Option.map_none, habsent]
      exact .nil s
  | some m =>
      exact .delimited (fun y => put (some y)) (reads_message (hx m)) htag hstep

/-- Nested messages of one number, each of which adds an item to a list. -/
theorem Fills.messages {body : β → Bytes} {normal : β → τ} (put : List τ → σ) {start : τ}
    (xs : List β) (hx : ∀ m, Fills (inner depth) (body m) start (normal m)) (htag : IsTag tag)
    (hstep : ∀ ys type, step (put ys) tag type = inField record field do
      return put (ys ++ [← Protobuf.message inner (depth + 1) type start])) :
    Fills step (writeMessages tag body xs) (put []) (put (xs.map normal)) :=
  Fills.items put (fun m ys =>
    .delimited (fun y => put (ys ++ [y])) (reads_message (hx m)) htag (hstep ys)) xs []

/-- A nested message that comes out as it was. -/
theorem Fills.sameMessage {body : τ → Bytes} (put : Option τ → σ) {start : τ} (x : Option τ)
    (hx : ∀ m, Fills (inner depth) (body m) start m) (habsent : put none = s) (htag : IsTag tag)
    (hstep : ∀ type, step s tag type = inField record field do
      return put (some (← Protobuf.message inner (depth + 1) type start))) :
    Fills step (writeMessage tag body x) s (put x) := by
  have h := Fills.message put x hx habsent htag hstep
  rwa [Option.map_id'] at h

/-- Nested messages that come out as they were. -/
theorem Fills.sameMessages {body : τ → Bytes} (put : List τ → σ) {start : τ} (xs : List τ)
    (hx : ∀ m, Fills (inner depth) (body m) start m) (htag : IsTag tag)
    (hstep : ∀ ys type, step (put ys) tag type = inField record field do
      return put (ys ++ [← Protobuf.message inner (depth + 1) type start])) :
    Fills step (writeMessages tag body xs) (put []) (put xs) := by
  have h := Fills.messages put xs hx htag hstep
  rwa [List.map_id'] at h

end SpanIntake.Protobuf

/-
**The Protocol Buffers wire format.**

A message is a run of fields, each a key and a value.  The key is a number in base 128, holding the
field's number and how its value is written: as another such number, as four or eight bytes, behind
a length, or as a group of fields.  A nested message stands behind a length, but while it is read
its fields are held back only by the end of the whole input; that the last of them ran past the
length is noticed afterwards.

Main definitions

* `Protobuf.WireType`, `Protobuf.Error`;
* `Protobuf.Reader` and the readers `varint`, `key`, `fixed64`, `delimited`, `text`;
* `Protobuf.message` — a nested message, `Protobuf.skip` — passing over a field;
* `Protobuf.writeVarint` and the field writers, which leave default values out.

Main results

* `Protobuf.takeVarint_writeVarint` — numbers below `UInt64.size` are read back.
-/

import SpanIntake.Decimal.Double
import SpanIntake.Text.Utf8

set_option relaxedAutoImplicit false
set_option autoImplicit false

namespace SpanIntake.Protobuf

/-! ### Wire types and errors -/

/-- How a value is written. -/
inductive WireType where
  /-- A number in base 128. -/
  | varint
  /-- Eight bytes. -/
  | sixtyFourBit
  /-- Bytes behind their length. -/
  | lengthDelimited
  /-- The beginning of a group. -/
  | startGroup
  /-- The end of a group. -/
  | endGroup
  /-- Four bytes. -/
  | thirtyTwoBit
  deriving DecidableEq, Repr

/-- The number of a wire type. -/
def WireType.code : WireType → Nat
  | .varint => 0
  | .sixtyFourBit => 1
  | .lengthDelimited => 2
  | .startGroup => 3
  | .endGroup => 4
  | .thirtyTwoBit => 5

/-- The name of a wire type in messages. -/
def WireType.name : WireType → String
  | .varint => "Varint"
  | .sixtyFourBit => "SixtyFourBit"
  | .lengthDelimited => "LengthDelimited"
  | .startGroup => "StartGroup"
  | .endGroup => "EndGroup"
  | .thirtyTwoBit => "ThirtyTwoBit"

/-- The wire type with a number. -/
def WireType.ofCode? (n : Nat) : Option WireType :=
  [.varint, .sixtyFourBit, .lengthDelimited, .startGroup, .endGroup, .thirtyTwoBit].find?
    (·.code == n)

/-- What is wrong with a message. -/
inductive Cause where
  /-- A number in base 128 is cut off, or has more than 64 bits. -/
  | invalidVarint
  /-- A key has more than 32 bits. -/
  | invalidKey (key : Nat)
  /-- A key names no wire type. -/
  | invalidWireType (code : Nat)
  /-- A key has the field number zero. -/
  | zeroTag
  /-- A known field is written in another way than it should be. -/
  | wireTypeMismatch (actual expected : WireType)
  /-- A value is longer than what is left. -/
  | bufferUnderflow
  /-- The last field of a nested message runs past its end. -/
  | lengthExceeded
  /-- A text is not UTF-8. -/
  | badText
  /-- A group ends that did not begin. -/
  | unexpectedEndGroup
  /-- Messages and groups are nested too deep. -/
  | tooDeep
  deriving DecidableEq, Repr

/-- The description of a cause. -/
def Cause.message : Cause → String
  | .invalidVarint => "invalid varint"
  | .invalidKey key => s!"invalid key value: {key}"
  | .invalidWireType code => s!"invalid wire type value: {code}"
  | .zeroTag => "invalid tag value: 0"
  | .wireTypeMismatch actual expected =>
    s!"invalid wire type: {actual.name} (expected {expected.name})"
  | .bufferUnderflow => "buffer underflow"
  | .lengthExceeded => "delimited length exceeded"
  | .badText => "invalid string value: data is not UTF-8 encoded"
  | .unexpectedEndGroup => "unexpected end group tag"
  | .tooDeep => "recursion limit reached"

/-- A cause with the fields it lies in. -/
structure Error where
  /-- Message and field name of each enclosing field, the innermost first. -/
  path : List (String × String)
  /-- What is wrong. -/
  cause : Cause
  deriving DecidableEq, Repr

/-- The message of an error. -/
def Error.message (e : Error) : String :=
  "failed to decode Protobuf message: "
    ++ String.join (e.path.map fun (record, field) => s!"{record}.{field}: ") ++ e.cause.message

/-! ### Numbers in base 128 -/

/-- A number of at most so many bytes, and the rest; the tenth byte has one bit at most. -/
def takeVarint : Nat → Bytes → Option (Nat × Bytes)
  | 0, _ => none
  | _ + 1, [] => none
  | more + 1, b :: rest =>
    if b < 0x80 then
      if more = 0 ∧ 2 ≤ b then none else some (b.toNat, rest)
    else (takeVarint more rest).map fun (n, rest) => (b.toNat - 128 + 128 * n, rest)

/-- A number in base 128 in at most one byte more than the first argument says. -/
def writeVarintUpTo : Nat → Nat → Bytes
  | 0, n => [UInt8.ofNat n]
  | more + 1, n =>
    if n < 128 then [UInt8.ofNat n]
    else UInt8.ofNat (n % 128 + 128) :: writeVarintUpTo more (n / 128)

/-- A number in base 128. -/
def writeVarint (n : Nat) : Bytes := writeVarintUpTo 9 n

theorem takeVarint_writeVarintUpTo (more n : Nat) (rest : Bytes) (h : n < 2 * Nat.pow 128 more) :
    takeVarint (more + 1) (writeVarintUpTo more n ++ rest) = some (n, rest) := by
  induction more generalizing n with
  | zero =>
    have hn : n < 2 := by simpa using h
    have : n = 0 ∨ n = 1 := by omega
    rcases this with rfl | rfl <;> simp [writeVarintUpTo, takeVarint]
  | succ more ih =>
    by_cases hn : n < 128
    · have hb : (UInt8.ofNat n).toNat = n := by simp; omega
      have hlt : UInt8.ofNat n < 0x80 := by
        rw [UInt8.lt_iff_toNat_lt, hb]; exact hn
      simp [writeVarintUpTo, takeVarint, hn, hlt]
      omega
    · have hb : (UInt8.ofNat (n % 128 + 128)).toNat = n % 128 + 128 := by simp; omega
      have hge : ¬ UInt8.ofNat (n % 128 + 128) < 0x80 := by
        rw [UInt8.lt_iff_toNat_lt, hb]; simp
      have hdiv : n / 128 < 2 * Nat.pow 128 more := by
        rw [Nat.div_lt_iff_lt_mul (by decide), Nat.mul_assoc]
        exact h
      rw [writeVarintUpTo, if_neg hn, List.cons_append, takeVarint, if_neg hge, ih _ hdiv]
      simp only [Option.map_some, hb, Option.some.injEq, Prod.mk.injEq, and_true]
      omega

theorem takeVarint_writeVarint (n : Nat) (rest : Bytes) (h : n < UInt64.size) :
    takeVarint 10 (writeVarint n ++ rest) = some (n, rest) :=
  takeVarint_writeVarintUpTo 9 n rest h

/-! ### Readers -/

/-- Takes a value off the front of the bytes, or says why there is none. -/
abbrev Reader (α : Type) := StateT Bytes (Except Error) α

/-- Fails with a cause in no field yet. -/
def failWith {α : Type} (cause : Cause) : Reader α := throw ⟨[], cause⟩

/-- Places the errors of a reader in a field. -/
def inField {α : Type} (record field : String) (r : Reader α) : Reader α := fun bs =>
  match r bs with
  | .ok x => .ok x
  | .error e => .error ⟨e.path ++ [(record, field)], e.cause⟩

/-- A number in base 128. -/
def varint : Reader Nat := do
  match takeVarint 10 (← get) with
  | some (n, rest) => set rest; pure n
  | none => failWith .invalidVarint

/-- The number of a field and how its value is written. -/
def key : Reader (Nat × WireType) := do
  let n ← varint
  if UInt32.size ≤ n then failWith (.invalidKey n)
  else
    match WireType.ofCode? (n % 8) with
    | none => failWith (.invalidWireType (n % 8))
    | some type => if n / 8 = 0 then failWith .zeroTag else pure (n / 8, type)

/-- Makes sure that a value is written as it should be. -/
def expect (expected actual : WireType) : Reader Unit :=
  if actual = expected then pure () else failWith (.wireTypeMismatch actual expected)

/-- Takes a given number of bytes. -/
def take (n : Nat) : Reader Bytes := do
  match Bytes.split? n (← get) with
  | some (bs, rest) => set rest; pure bs
  | none => failWith .bufferUnderflow

/-- A number in base 128 as a field. -/
def varintField (type : WireType) : Reader Nat := do
  expect .varint type
  varint

/-- Eight bytes as a field. -/
def fixed64Field (type : WireType) : Reader Nat := do
  expect .sixtyFourBit type
  return Bytes.ofLittleEndian (← take 8)

/-- A byte string as a field. -/
def bytesField (type : WireType) : Reader Bytes := do
  expect .lengthDelimited type
  take (← varint)

/-- A text as a field. -/
def textField (type : WireType) : Reader String := do
  match Utf8.decode (← bytesField type) with
  | .ok s => pure s
  | .error _ => failWith .badText

/-- A signed number of 64 bits as a field. -/
def int64Field (type : WireType) : Reader Int64 :=
  return (UInt64.ofNat (← varintField type)).toInt64

/-- A signed number of 32 bits as a field; bits above them are dropped. -/
def int32Field (type : WireType) : Reader Int32 :=
  return (UInt32.ofNat (← varintField type)).toInt32

/-- An unsigned number of 32 bits as a field; bits above them are dropped. -/
def uint32Field (type : WireType) : Reader UInt32 := return UInt32.ofNat (← varintField type)

/-- A truth value as a field. -/
def boolField (type : WireType) : Reader Bool := return (← varintField type) != 0

/-- A double as a field. -/
def doubleField (type : WireType) : Reader Double :=
  return ⟨UInt64.ofNat (← fixed64Field type)⟩

/-! ### Messages -/

/-- Reads fields into a message until only `limit` bytes are left.  Every field takes bytes, so
there are at most as many as the first argument says where that counts the bytes. -/
def fieldsUpTo {σ : Type} (step : σ → Nat → WireType → Reader σ) (limit : Nat) :
    Nat → σ → Reader σ
  | more, s => do
    let left := (← get).length
    if left < limit then failWith .lengthExceeded
    else if left = limit then pure s
    else
      match more with
      | 0 => failWith .invalidVarint
      | more + 1 => do
        let (tag, type) ← key
        let s ← step s tag type
        fieldsUpTo step limit more s

/-- Reads all bytes as the fields of a message. -/
def fields {σ : Type} (step : σ → Nat → WireType → Reader σ) (start : σ) : Reader σ := do
  fieldsUpTo step 0 (← get).length start

/-- Reads a nested message into `start`; its own fields may nest one level less. -/
def message {σ : Type} (step : Nat → σ → Nat → WireType → Reader σ) (depth : Nat)
    (type : WireType) (start : σ) : Reader σ := do
  expect .lengthDelimited type
  match depth with
  | 0 => failWith .tooDeep
  | depth + 1 => do
    let length ← varint
    let left := (← get).length
    if left < length then failWith .bufferUnderflow
    else fieldsUpTo (step depth) (left - length) length start

/-- Passes over fields until a group ends; every field takes bytes, so the first argument bounds
their count where it counts the bytes. -/
def untilGroupEnd (skipOne : Nat → WireType → Reader Unit) (tag : Nat) : Nat → Reader Unit
  | 0 => failWith .invalidVarint
  | more + 1 => do
    let (inner, type) ← key
    if type = .endGroup then
      if inner = tag then pure () else failWith .unexpectedEndGroup
    else
      skipOne inner type
      untilGroupEnd skipOne tag more

/-- Passes over a field, groups being nested at most so deep. -/
def skip : Nat → Nat → WireType → Reader Unit
  | 0, _, _ => failWith .tooDeep
  | depth + 1, tag, type =>
    match type with
    | .varint => discard varint
    | .thirtyTwoBit => discard (take 4)
    | .sixtyFourBit => discard (take 8)
    | .lengthDelimited => do discard (take (← varint))
    | .startGroup => do untilGroupEnd (skip depth) tag (← get).length
    | .endGroup => failWith .unexpectedEndGroup

/-- How deep messages and groups may be nested. -/
def maxDepth : Nat := 100

/-! ### Writers -/

/-- The key of a field. -/
def writeKey (tag : Nat) (type : WireType) : Bytes := writeVarint (tag * 8 + type.code)

/-- A field with a number in base 128. -/
def writeVarintField (tag n : Nat) : Bytes := writeKey tag .varint ++ writeVarint n

/-- A field with eight bytes. -/
def writeFixed64Field (tag n : Nat) : Bytes :=
  writeKey tag .sixtyFourBit ++ Bytes.littleEndian 8 n

/-- A field with bytes behind their length. -/
def writeBytesField (tag : Nat) (bs : Bytes) : Bytes :=
  writeKey tag .lengthDelimited ++ writeVarint bs.length ++ bs

/-- A field with a text. -/
def writeTextField (tag : Nat) (s : String) : Bytes := writeBytesField tag (Utf8.encode s)

/-- A number field, left out where it is zero. -/
def writeNat (tag n : Nat) : Bytes := if n = 0 then [] else writeVarintField tag n

/-- A field with a signed number of 64 bits, left out where it is zero. -/
def writeInt64 (tag : Nat) (n : Int64) : Bytes := writeNat tag n.toUInt64.toNat

/-- A field with a signed number of 32 bits, written as one of 64, left out where it is zero. -/
def writeInt32 (tag : Nat) (n : Int32) : Bytes := writeNat tag n.toInt64.toUInt64.toNat

/-- A field with an unsigned number of 32 bits, left out where it is zero. -/
def writeUInt32 (tag : Nat) (n : UInt32) : Bytes := writeNat tag n.toNat

/-- A truth value, left out where it is false. -/
def writeBool (tag : Nat) (b : Bool) : Bytes := writeNat tag (if b then 1 else 0)

/-- A double, left out where it is a zero of either sign. -/
def writeDouble (tag : Nat) (d : Double) : Bytes :=
  if d.isZero then [] else writeFixed64Field tag d.bits.toNat

/-- An unsigned number of eight bytes, left out where it is zero. -/
def writeFixed64 (tag n : Nat) : Bytes := if n = 0 then [] else writeFixed64Field tag n

/-- A byte string, left out where it is empty. -/
def writeBytes (tag : Nat) (bs : Bytes) : Bytes :=
  if bs.isEmpty then [] else writeBytesField tag bs

/-- A text, left out where it is empty. -/
def writeText (tag : Nat) (s : String) : Bytes :=
  if s.isEmpty then [] else writeTextField tag s

/-- A nested message that may be absent. -/
def writeMessage {α : Type} (tag : Nat) (body : α → Bytes) : Option α → Bytes
  | some x => writeBytesField tag (body x)
  | none => []

/-- Nested messages, one field each. -/
def writeMessages {α : Type} (tag : Nat) (body : α → Bytes) (xs : List α) : Bytes :=
  xs.flatMap fun x => writeBytesField tag (body x)

end SpanIntake.Protobuf

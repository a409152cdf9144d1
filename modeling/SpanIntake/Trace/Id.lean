/-
**Trace and span identifiers.**

A trace id has sixteen bytes and a span id eight; the one with zeros only means "none" on every
wire and is no identifier.  Both kinds share one type, so that each fact is stated once.

Main definitions

* `Id` — an identifier of a kind, `TraceId` and `SpanId` the two kinds of it;
* `Id.ofBytes`, `Id.parse`, `Id.ofNat` — identifiers from bytes, hexadecimal text and a number;
* `TraceId.ofHighLow`, `SpanId.ofWord` — identifiers from 64-bit words;
* `IdError`, `IdParseError` — why there is no identifier.

Main results

* `Id.ofBytes_bytes`, `Id.parse_toHex` — the bytes and the text of an identifier give it back.
-/

import SpanIntake.Bytes.Hex

set_option relaxedAutoImplicit false
set_option autoImplicit false

namespace SpanIntake

/-- The two kinds of identifier. -/
inductive IdKind where
  /-- Identifies a trace. -/
  | trace
  /-- Identifies a span within its trace. -/
  | span
  deriving DecidableEq, Repr

/-- The count of bytes of an identifier. -/
def IdKind.size : IdKind → Nat
  | .trace => 16
  | .span => 8

/-- The name of a kind in messages. -/
def IdKind.label : IdKind → String
  | .trace => "trace id"
  | .span => "span id"

/-- An identifier: bytes of the right count, not all of them zero. -/
structure Id (k : IdKind) where
  /-- The bytes, most significant first. -/
  bytes : Bytes
  /-- There are as many as the kind has. -/
  size_eq : bytes.length = k.size
  /-- Some byte is not zero. -/
  ne_zero : bytes.any (· != 0) = true
  deriving DecidableEq

/-- The identifier of a trace. -/
abbrev TraceId := Id .trace

/-- The identifier of a span. -/
abbrev SpanId := Id .span

/-- Why bytes are no identifier. -/
inductive IdError where
  /-- The count of bytes is wrong. -/
  | invalidLength (kind : IdKind) (actual : Nat)
  /-- All bytes are zero. -/
  | zero (kind : IdKind)
  deriving DecidableEq, Repr

/-- The message of an identifier error. -/
def IdError.message : IdError → String
  | .invalidLength kind actual =>
    s!"invalid {kind.label} length: expected {kind.size} bytes, got {actual}"
  | .zero kind => s!"{kind.label} must not be all zeros"

/-- Why a text is no identifier. -/
inductive IdParseError where
  /-- It is not the right count of hexadecimal digits. -/
  | notHex (kind : IdKind) (input : String)
  /-- Its digits are all zero. -/
  | zero (kind : IdKind)
  deriving DecidableEq, Repr

/-- The message of a failed parse. -/
def IdParseError.message : IdParseError → String
  | .notHex kind input => s!"invalid {kind.label}: {input}"
  | .zero kind => (IdError.zero kind).message

namespace Id

variable {k : IdKind}

/-! ### Bytes -/

/-- The identifier with the given bytes. -/
def ofBytes (k : IdKind) (bs : Bytes) : Except IdError (Id k) :=
  if size_eq : bs.length = k.size then
    if ne_zero : bs.any (· != 0) = true then .ok ⟨bs, size_eq, ne_zero⟩
    else .error (.zero k)
  else .error (.invalidLength k bs.length)

@[simp] theorem ofBytes_bytes (i : Id k) : ofBytes k i.bytes = .ok i := by
  simp [ofBytes, i.size_eq, i.ne_zero]

/-- The identifier whose bytes spell a number. -/
def ofNat (k : IdKind) (n : Nat) : Except IdError (Id k) := ofBytes k (Bytes.bigEndian k.size n)

/-- The number that an identifier's bytes spell. -/
def toNat (i : Id k) : Nat := Bytes.ofBigEndian i.bytes

/-- Identifiers are ordered as the numbers they spell. -/
def le (i j : Id k) : Bool := i.toNat ≤ j.toNat

/-! ### Text -/

/-- The identifier in lower-case hexadecimal text. -/
def toHex (i : Id k) : String := Hex.encode i.bytes

/-- The identifier that a hexadecimal text of either case spells. -/
def parse (k : IdKind) (s : String) : Except IdParseError (Id k) :=
  match Hex.decode? s with
  | some bs =>
    match ofBytes k bs with
    | .ok i => .ok i
    | .error (.zero _) => .error (.zero k)
    | .error (.invalidLength _ _) => .error (.notHex k s)
  | none => .error (.notHex k s)

theorem parse_toHex (i : Id k) : parse k i.toHex = .ok i := by
  rw [parse, toHex, Hex.decode?_encode]
  simp only [ofBytes_bytes]

/-- The form used in diagnostics: the name of the kind around the hexadecimal text. -/
def debug (i : Id k) : String :=
  match k with
  | .trace => s!"TraceId({i.toHex})"
  | .span => s!"SpanId({i.toHex})"

end Id

/-! ### Words -/

/-- The trace id of a high and a low word. -/
def TraceId.ofHighLow (high low : UInt64) : Except IdError TraceId :=
  Id.ofBytes .trace (Bytes.bigEndian 8 high.toNat ++ Bytes.bigEndian 8 low.toNat)

/-- The first eight bytes of a trace id as a word. -/
def TraceId.high (i : TraceId) : UInt64 := UInt64.ofNat (Bytes.ofBigEndian (i.bytes.take 8))

/-- The last eight bytes of a trace id as a word. -/
def TraceId.low (i : TraceId) : UInt64 := UInt64.ofNat (Bytes.ofBigEndian (i.bytes.drop 8))

/-- The span id of a word. -/
def SpanId.ofWord (w : UInt64) : Except IdError SpanId := Id.ofNat .span w.toNat

/-- A span id as a word. -/
def SpanId.toWord (i : SpanId) : UInt64 := UInt64.ofNat i.toNat

end SpanIntake

/-
**Canonical prefix codes.**

A code is given by the length of each symbol's word.  Words of one length are consecutive numbers in
the order of the symbols, and shorter words come first.

Main definitions

* `Gzip.Bits` — bits in the order in which they are read;
* `Gzip.Code` — the symbols of each length, and `Gzip.Code.ofLengths?`;
* `Gzip.Code.read` — the symbol that bits begin with.
-/

import SpanIntake.Bytes.Word

set_option relaxedAutoImplicit false
set_option autoImplicit false

namespace SpanIntake.Gzip

/-- Why bytes cannot be inflated. -/
inductive Fault where
  /-- They end too early. -/
  | endOfFile
  /-- The header is none. -/
  | badHeader
  /-- The compressed data make no sense. -/
  | corrupt
  /-- The checksum does not match. -/
  | badChecksum
  deriving DecidableEq, Repr

/-- The text of a fault. -/
def Fault.message : Fault → String
  | .endOfFile => "unexpected end of file"
  | .badHeader => "invalid gzip header"
  | .corrupt => "corrupt deflate stream"
  | .badChecksum => "corrupt gzip stream does not have a matching checksum"

/-! ### Bits -/

/-- Bits in the order in which they are read. -/
abbrev Bits := List Bool

/-- The bits of a byte, the lowest first. -/
def bitsOfByte (b : UInt8) : Bits := (List.range 8).map fun i => b.toNat.testBit i

/-- The bits of bytes. -/
def bitsOfBytes (bs : Bytes) : Bits := bs.flatMap bitsOfByte

/-- A number of so many bits, the lowest first. -/
def takeNumber : Nat → Bits → Except Fault (Nat × Bits)
  | 0, bs => .ok (0, bs)
  | _ + 1, [] => .error .endOfFile
  | k + 1, b :: bs => do
    let (n, rest) ← takeNumber k bs
    return (2 * n + b.toNat, rest)

/-! ### Codes -/

/-- The symbols whose words have one bit, two bits, and so on, each in order. -/
structure Code where
  /-- The symbols of each length. -/
  rows : List (List Nat)

namespace Code

/-- The symbols of one length. -/
def row (lengths : List Nat) (length : Nat) : List Nat :=
  (lengths.zipIdx.filter fun p => p.1 = length).map Prod.snd

/-- The code of lengths of at most 15 bits, a zero standing for a symbol without a word.  Nothing
unless the words use up all sequences of bits or there is at most one word. -/
def ofLengths? (lengths : List Nat) : Option Code :=
  let rows := (List.range 15).map fun i => row lengths (i + 1)
  let used := rows.foldl (fun n r => n + r.length) 0
  let space := rows.zipIdx.foldl (fun n r => n + r.1.length <<< (14 - r.2)) 0
  if used ≤ 1 || space == 32768 then some ⟨rows⟩ else none

/-- The symbol that bits begin with, below words that stand for `code` so far; the first word of
this length is `first`. -/
def readRows : List (List Nat) → Nat → Nat → Bits → Except Fault (Nat × Bits)
  | [], _, _, _ => .error .corrupt
  | _ :: _, _, _, [] => .error .endOfFile
  | row :: rows, code, first, b :: bs =>
    let code := 2 * code + b.toNat
    match (if code < first then none else row[code - first]?) with
    | some s => .ok (s, bs)
    | none => readRows rows code (2 * (first + row.length)) bs

/-- The symbol that bits begin with, and the rest. -/
def read (c : Code) (bs : Bits) : Except Fault (Nat × Bits) := readRows c.rows 0 0 bs

end Code

end SpanIntake.Gzip

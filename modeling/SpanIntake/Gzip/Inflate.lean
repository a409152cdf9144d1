/-
**Inflating.**

Compressed data are blocks: bytes as they are, or symbols of a fixed code or of one that the block
states.  A symbol is a byte, the end of the block, or a length, behind which stands how far back the
bytes to be repeated lie.

Main definitions

* `Gzip.inflate` — the bytes of compressed data, and the rest behind them;
* `Gzip.unpack` — the bytes of a compressed file.
-/

import SpanIntake.Gzip.Checksum
import SpanIntake.Gzip.Huffman

set_option relaxedAutoImplicit false
set_option autoImplicit false

namespace SpanIntake.Gzip

/-! ### Lengths and distances -/

/-- The least length and the number of further bits of each symbol from 257 on. -/
def lengthTable : List (Nat × Nat) :=
  [(3, 0), (4, 0), (5, 0), (6, 0), (7, 0), (8, 0), (9, 0), (10, 0), (11, 1), (13, 1), (15, 1),
   (17, 1), (19, 2), (23, 2), (27, 2), (31, 2), (35, 3), (43, 3), (51, 3), (59, 3), (67, 4),
   (83, 4), (99, 4), (115, 4), (131, 5), (163, 5), (195, 5), (227, 5), (258, 0)]

/-- The least distance and the number of further bits of each symbol. -/
def distanceTable : List (Nat × Nat) :=
  [(1, 0), (2, 0), (3, 0), (4, 0), (5, 1), (7, 1), (9, 2), (13, 2), (17, 3), (25, 3), (33, 4),
   (49, 4), (65, 5), (97, 5), (129, 6), (193, 6), (257, 7), (385, 7), (513, 8), (769, 8),
   (1025, 9), (1537, 9), (2049, 10), (3073, 10), (4097, 11), (6145, 11), (8193, 12), (12289, 12),
   (16385, 13), (24577, 13)]

/-- The number of a symbol in a table, with its further bits. -/
def tableNumber (table : List (Nat × Nat)) (symbol : Nat) (bs : Bits) :
    Except Fault (Nat × Bits) :=
  match table[symbol]? with
  | none => .error .corrupt
  | some (least, more) => do
    let (n, rest) ← takeNumber more bs
    return (least + n, rest)

/-- Repeats bytes from so far back. -/
def repeatBytes : Nat → Nat → Array UInt8 → Array UInt8
  | 0, _, out => out
  | k + 1, distance, out =>
    repeatBytes k distance (out.push (out[out.size - distance]?.getD 0))

/-! ### Blocks -/

/-- The symbols of a block up to its end.  Every symbol takes a bit at least, so that the number of
bits bounds their number. -/
def symbols (codes : Code × Code) : Nat → Array UInt8 → Bits → Except Fault (Array UInt8 × Bits)
  | 0, _, _ => .error .endOfFile
  | more + 1, out, bs => do
    let (s, bs) ← codes.1.read bs
    if s < 256 then symbols codes more (out.push (UInt8.ofNat s)) bs
    else if s = 256 then return (out, bs)
    else
      let (length, bs) ← tableNumber lengthTable (s - 257) bs
      let (d, bs) ← codes.2.read bs
      let (distance, bs) ← tableNumber distanceTable d bs
      if out.size < distance then throw .corrupt
      else symbols codes more (repeatBytes length distance out) bs

/-- The fixed codes. -/
def fixedCodes? : Option (Code × Code) := do
  let lengths :=
    List.replicate 144 8 ++ List.replicate 112 9 ++ List.replicate 24 7 ++ List.replicate 8 8
  return (← Code.ofLengths? lengths, ← Code.ofLengths? (List.replicate 32 5))

/-- Bytes as they are, behind their count and its complement. -/
def stored (out : Array UInt8) (bs : Bits) : Except Fault (Array UInt8 × Bits) := do
  let bs := bs.drop (bs.length % 8)
  let (size, bs) ← takeNumber 16 bs
  let (complement, bs) ← takeNumber 16 bs
  if size + complement ≠ 65535 then throw .corrupt
  let step (r : Array UInt8 × Bits) (_ : Nat) : Except Fault (Array UInt8 × Bits) := do
    let (b, bs) ← takeNumber 8 r.2
    return (r.1.push (UInt8.ofNat b), bs)
  (List.range size).foldlM step (out, bs)

/-- The order in which the lengths of the words for lengths stand. -/
def lengthOrder : List Nat :=
  [16, 17, 18, 0, 8, 7, 9, 6, 10, 5, 11, 4, 12, 3, 13, 2, 14, 1, 15]

/-- Numbers of three bits. -/
def threes : Nat → Bits → Except Fault (List Nat × Bits)
  | 0, bs => .ok ([], bs)
  | k + 1, bs => do
    let (n, bs) ← takeNumber 3 bs
    let (ns, bs) ← threes k bs
    return (n :: ns, bs)

/-- The lengths of words up to a total, in reverse; every symbol takes a bit at least. -/
def lengthsOf (code : Code) (total : Nat) : Nat → List Nat → Bits → Except Fault (List Nat × Bits)
  | 0, _, _ => .error .endOfFile
  | more + 1, acc, bs =>
    if total < acc.length then .error .corrupt
    else if acc.length = total then .ok (acc, bs)
    else do
      let (s, bs) ← code.read bs
      if s < 16 then lengthsOf code total more (s :: acc) bs
      else if s = 16 then
        match acc with
        | [] => throw .corrupt
        | last :: _ =>
          let (n, bs) ← takeNumber 2 bs
          lengthsOf code total more (List.replicate (n + 3) last ++ acc) bs
      else if s = 17 then
        let (n, bs) ← takeNumber 3 bs
        lengthsOf code total more (List.replicate (n + 3) 0 ++ acc) bs
      else
        let (n, bs) ← takeNumber 7 bs
        lengthsOf code total more (List.replicate (n + 11) 0 ++ acc) bs

/-- The codes that a block states. -/
def statedCodes (bs : Bits) : Except Fault ((Code × Code) × Bits) := do
  let (literals, bs) ← takeNumber 5 bs
  let (distances, bs) ← takeNumber 5 bs
  let (count, bs) ← takeNumber 4 bs
  let literals := literals + 257
  let distances := distances + 1
  if 286 < literals ∨ 30 < distances then throw .corrupt
  let (threes, bs) ← threes (count + 4) bs
  let given := lengthOrder.zip threes
  let lengthOf (s : Nat) : Nat := ((given.find? fun p => p.1 = s).map Prod.snd).getD 0
  let some code := Code.ofLengths? ((List.range 19).map lengthOf) | throw .corrupt
  let (acc, bs) ← lengthsOf code (literals + distances) (bs.length + 1) [] bs
  let lengths := acc.reverse
  let some first := Code.ofLengths? (lengths.take literals) | throw .corrupt
  let some second := Code.ofLengths? (lengths.drop literals) | throw .corrupt
  return ((first, second), bs)

/-- Blocks up to the last.  Every block takes a bit at least. -/
def blocks : Nat → Array UInt8 → Bits → Except Fault (Array UInt8 × Bits)
  | 0, _, _ => .error .endOfFile
  | more + 1, out, bs => do
    let (last, bs) ← takeNumber 1 bs
    let (kind, bs) ← takeNumber 2 bs
    let (out, bs) ←
      if kind = 0 then stored out bs
      else if kind = 1 then
        match fixedCodes? with
        | some codes => symbols codes (bs.length + 1) out bs
        | none => throw .corrupt
      else if kind = 2 then do
        let (codes, bs) ← statedCodes bs
        symbols codes (bs.length + 1) out bs
      else throw .corrupt
    if last = 1 then return (out, bs) else blocks more out bs

/-- The bytes of compressed data, and the bytes behind them. -/
def inflate (bs : Bytes) : Except Fault (Bytes × Bytes) := do
  let bits := bitsOfBytes bs
  let (out, rest) ← blocks (bits.length + 1) #[] bits
  return (out.toList, bs.drop (bs.length - rest.length / 8))

/-! ### Files -/

/-- Splits off so many bytes. -/
def takeBytes (k : Nat) (bs : Bytes) : Except Fault (Bytes × Bytes) :=
  match Bytes.split? k bs with
  | some r => .ok r
  | none => .error .endOfFile

/-- The bytes behind the first zero byte. -/
def skipName : Bytes → Except Fault Bytes
  | [] => .error .endOfFile
  | b :: bs => if b = 0 then .ok bs else skipName bs

/-- The bytes behind the header of a file. -/
def skipHeader (file : Bytes) : Except Fault Bytes := do
  let (fixed, bs) ← takeBytes 10 file
  let flags ←
    match fixed with
    | 0x1f :: 0x8b :: 8 :: flags :: _ => if 32 ≤ flags then throw .badHeader else pure flags
    | _ => throw .badHeader
  let has (i : Nat) : Bool := flags.toNat.testBit i
  let bs ←
    if has 2 then do
      let (size, bs) ← takeBytes 2 bs
      let (_, bs) ← takeBytes (Bytes.ofLittleEndian size) bs
      pure bs
    else pure bs
  let bs ← if has 3 then skipName bs else pure bs
  let bs ← if has 4 then skipName bs else pure bs
  if has 1 then do
    let sum := (crc32 (file.take (file.length - bs.length))).toNat % 65536
    let (stated, bs) ← takeBytes 2 bs
    if Bytes.ofLittleEndian stated = sum then return bs else throw .badChecksum
  else return bs

/-- The bytes of a compressed file; what stands behind its end does not count. -/
def unpack (file : Bytes) : Except Fault Bytes := do
  let (out, bs) ← inflate (← skipHeader file)
  let (sum, bs) ← takeBytes 4 bs
  let (size, _) ← takeBytes 4 bs
  if Bytes.ofLittleEndian sum = (crc32 out).toNat ∧ Bytes.ofLittleEndian size = out.length % UInt32.size
  then return out
  else throw .badChecksum

end SpanIntake.Gzip

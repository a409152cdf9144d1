/-
**Checksums of 32 bits.**

The cyclic redundancy check with the reflected polynomial `0xEDB88320`, which gzip uses.

Main definitions

* `Gzip.crc32` — the checksum of bytes.
-/

import SpanIntake.Bytes.Word

set_option relaxedAutoImplicit false
set_option autoImplicit false

namespace SpanIntake.Gzip

/-- One bit of the division. -/
def crcBit (r : UInt32) : UInt32 :=
  if r &&& 1 = 1 then (r >>> 1) ^^^ 0xEDB88320 else r >>> 1

/-- One byte of the division. -/
def crcByte (r : UInt32) (b : UInt8) : UInt32 :=
  let r := r ^^^ b.toUInt32
  crcBit (crcBit (crcBit (crcBit (crcBit (crcBit (crcBit (crcBit r)))))))

/-- The checksum of bytes. -/
def crc32 (bs : Bytes) : UInt32 := (bs.foldl crcByte 0xFFFFFFFF) ^^^ 0xFFFFFFFF

end SpanIntake.Gzip

/-
**Frames of gRPC messages.**

A message travels behind a flag, which says whether it is compressed, and its length in four bytes.

Main definitions

* `Grpc.frame` — a message in its frame, not compressed;
* `Grpc.compressed?` — whether a call announces compressed messages;
* `Grpc.readMessages` — the messages of a row of frames.
-/

import SpanIntake.Grpc.Status
import SpanIntake.Gzip.Inflate
import SpanIntake.Http.Message

set_option relaxedAutoImplicit false
set_option autoImplicit false

namespace SpanIntake.Grpc

/-- A message in its frame. -/
def frame (message : Bytes) : Bytes := 0 :: (Bytes.bigEndian 4 message.length ++ message)

/-! ### Compression -/

/-- The name of an encoding; its bytes in brackets where it is no text. -/
def encodingName (bs : Bytes) : String :=
  match Utf8.decode bs with
  | .ok s => s
  | .error _ => "[" ++ ", ".intercalate (bs.map fun b => toString b.toNat) ++ "]"

/-- Whether a call announces that its messages may be compressed; the reply to it if it names an
encoding that is not known. -/
def compressed? (headers : Http.Headers) : Except Reply Bool :=
  match Http.header? "grpc-encoding" headers with
  | none => .ok false
  | some value =>
    if value = Utf8.encode "gzip" then .ok true
    else if value = Utf8.encode "identity" then .ok false
    else
      .error
        (.failure
          ⟨.unimplemented,
            "Content is compressed with `" ++ encodingName value ++ "` which isn't supported"⟩
          [("grpc-accept-encoding", "gzip,identity")])

/-! ### Reading -/

/-- The status of a message that is too large. -/
def tooLarge (size limit : Nat) : Status :=
  ⟨.outOfRange,
    s!"Error, decoded message length too large: found {size} bytes, the limit is: {limit} bytes"⟩

/-- The status of frames that end too early. -/
def unexpectedEnd : Status := ⟨.internal, "Unexpected EOF decoding stream."⟩

/-- The status of a flag that means nothing. -/
def badFlag (flag : UInt8) : Status :=
  ⟨.internal,
    s!"protocol error: received message with invalid compression flag: {flag.toNat} "
      ++ "(valid flags are 0 and 1), while sending request"⟩

/-- The status of a compressed message in a call that announces none. -/
def unannounced : Status :=
  ⟨.internal,
    "protocol error: received message with compressed-flag but no grpc-encoding was specified"⟩

/-- The bytes of a compressed message. -/
def unpackMessage (limit : Nat) (body : Bytes) : Except Status Bytes :=
  match Gzip.unpack body with
  | .error e => .error ⟨.internal, s!"Error decompressing: {e.message}, while sending request"⟩
  | .ok bs => if limit < bs.length then .error (tooLarge bs.length limit) else .ok bs

/-- Whether the message behind a flag is compressed. -/
def readFlag (gzip : Bool) (flag : UInt8) : Except Status Bool :=
  if flag = 0 then .ok false
  else if flag = 1 then if gzip then .ok true else .error unannounced
  else .error (badFlag flag)

/-- The message of the first frame and the rest; nothing where no frame is left.  A frame whose
message is missing altogether counts as none. -/
def readFrame (gzip : Bool) (limit : Nat) (bs : Bytes) : Except Status (Option (Bytes × Bytes)) :=
  match bs with
  | [] => .ok none
  | flag :: rest =>
    match Bytes.split? 4 rest with
    | none => .error unexpectedEnd
    | some (size, rest) => do
      let packed ← readFlag gzip flag
      let size := Bytes.ofBigEndian size
      if limit < size then throw (tooLarge size limit)
      match Bytes.split? size rest with
      | none => if rest.isEmpty then return none else throw unexpectedEnd
      | some (body, rest) =>
        let message ← if packed then unpackMessage limit body else pure body
        return some (message, rest)

/-- The messages of frames, each read as soon as its frame is; at most as many as the first argument
says. -/
def readMany {α : Type} (gzip : Bool) (limit : Nat) (read : Bytes → Except Status α) :
    Nat → Bytes → Except Status (List α)
  | 0, _ => .ok []
  | more + 1, bs => do
    match ← readFrame gzip limit bs with
    | none => return []
    | some (message, rest) =>
      let x ← read message
      return x :: (← readMany gzip limit read more rest)

/-- The messages of frames.  Every frame takes a byte at least. -/
def readMessages {α : Type} (gzip : Bool) (limit : Nat) (read : Bytes → Except Status α)
    (bs : Bytes) : Except Status (List α) :=
  readMany gzip limit read (bs.length + 1) bs

end SpanIntake.Grpc

/-
**The Thrift binary protocol.**

A record is a run of fields, each a type byte, a 16-bit field id and a value, closed by a zero
byte.  Words are big-endian; texts, byte strings and lists carry their size in front.  Readers
consume a list of bytes, so every statement about reading can speak of the rest.

Main definitions

* `Thrift.WireType` — the types of the protocol with their numbers and names;
* `Thrift.Error` — why bytes are no record;
* `Thrift.Reader` and the readers `byte`, `int32`, `int64`, `double`, `bytes`, `text`;
* `Thrift.fields` — the field loop of a record, `Thrift.skip` — passing over a value of any type.
-/

import SpanIntake.Decimal.Double
import SpanIntake.Text.Utf8

set_option relaxedAutoImplicit false
set_option autoImplicit false

namespace SpanIntake.Thrift

/-! ### Types and errors -/

/-- The types a value may have on the wire. -/
inductive WireType where
  /-- Closes a record. -/
  | stop
  /-- No value. -/
  | void
  /-- A truth value, one byte. -/
  | bool
  /-- An integer of one byte. -/
  | i08
  /-- A double. -/
  | double
  /-- An integer of two bytes. -/
  | i16
  /-- An integer of four bytes. -/
  | i32
  /-- An integer of eight bytes. -/
  | i64
  /-- A text or a byte string. -/
  | string
  /-- A record. -/
  | struct
  /-- A map. -/
  | map
  /-- A set. -/
  | set
  /-- A list. -/
  | list
  /-- A text in UTF-8, not in use. -/
  | utf8
  /-- A text in UTF-16, not in use. -/
  | utf16
  deriving DecidableEq, Repr

/-- The number of a type. -/
def WireType.code : WireType → Nat
  | .stop => 0
  | .void => 1
  | .bool => 2
  | .i08 => 3
  | .double => 4
  | .i16 => 6
  | .i32 => 8
  | .i64 => 10
  | .string => 11
  | .struct => 12
  | .map => 13
  | .set => 14
  | .list => 15
  | .utf8 => 16
  | .utf16 => 17

/-- The name of a type in messages. -/
def WireType.name : WireType → String
  | .stop => "Stop"
  | .void => "Void"
  | .bool => "Bool"
  | .i08 => "I08"
  | .double => "Double"
  | .i16 => "I16"
  | .i32 => "I32"
  | .i64 => "I64"
  | .string => "String"
  | .struct => "Struct"
  | .map => "Map"
  | .set => "Set"
  | .list => "List"
  | .utf8 => "Utf8"
  | .utf16 => "Utf16"

/-- All types. -/
def WireType.all : List WireType :=
  [.stop, .void, .bool, .i08, .double, .i16, .i32, .i64, .string, .struct, .map, .set, .list,
   .utf8, .utf16]

/-- The type with a number. -/
def WireType.ofCode? (n : Nat) : Option WireType := WireType.all.find? (·.code == n)

theorem WireType.ofCode?_code (t : WireType) : ofCode? t.code = some t := by
  cases t <;> rfl

/-- Why bytes cannot be read. -/
inductive Error where
  /-- A record lacks a field that it must have. -/
  | missingField (record field : String)
  /-- A list of records has a negative size. -/
  | negativeListSize (size : Int)
  /-- The bytes end inside a value of fixed size. -/
  | endOfFile
  /-- A number stands for no type. -/
  | unknownType (code : Nat)
  /-- A text is not UTF-8. -/
  | badText (fault : Utf8.Fault)
  /-- A text or byte string has a negative length. -/
  | negativeByteLength (length : Int)
  /-- A text or byte string is longer than what is left. -/
  | byteLengthExceeds (length left : Nat)
  /-- Values are nested too deep to pass over. -/
  | tooDeep (type : WireType)
  /-- Values of a type cannot be passed over. -/
  | cannotSkip (type : WireType)
  /-- A list to be written has more items than a size can say. -/
  | listTooLong (length : Nat)
  deriving DecidableEq, Repr

/-- What exactly is wrong with the protocol, where that is known. -/
def Error.detail? : Error → Option String
  | .unknownType code => some s!"cannot convert {code} to TType"
  | .badText fault => some fault.message
  | .negativeByteLength length => some s!"negative byte length {length}"
  | .byteLengthExceeds length left =>
    some s!"byte length {length} exceeds the {left} bytes left"
  | .tooDeep type => some s!"cannot parse past {type.name}"
  | .cannotSkip type => some s!"cannot skip field type {type.name}"
  | .listTooLong length => some s!"list of {length} elements exceeds thrift limits"
  | .missingField _ _ | .negativeListSize _ | .endOfFile => none

/-- Whether the protocol itself is broken, and not a record in it. -/
def Error.isProtocolFault : Error → Bool
  | .missingField _ _ | .negativeListSize _ => false
  | .endOfFile | .unknownType _ | .badText _ | .negativeByteLength _ | .byteLengthExceeds _ _
  | .tooDeep _ | .cannotSkip _ | .listTooLong _ => true

/-- What went wrong, in words. -/
def Error.words : Error → String
  | .missingField record field => s!"missing required field {field} in {record}"
  | .negativeListSize size => s!"negative list size {size}"
  | .endOfFile => "end of file"
  | .unknownType _ | .badText _ => "bad data"
  | .negativeByteLength _ => "negative message size"
  | .byteLengthExceeds _ _ | .listTooLong _ => "message too long"
  | .tooDeep _ => "maximum skip depth reached"
  | .cannotSkip _ => "protocol error"

/-- The message of an error. -/
def Error.message (e : Error) : String :=
  if e.isProtocolFault then "thrift protocol error: " ++ e.words else e.words

/-- The messages of an error and of the fault behind it. -/
def Error.causes (e : Error) : List String :=
  if e.isProtocolFault then [e.message, e.words] else [e.message]

/-! ### Readers of single values -/

/-- Takes a value off the front of the bytes, or says why there is none. -/
abbrev Reader (α : Type) := StateT Bytes (Except Error) α

/-- One byte. -/
def byte : Reader UInt8 := do
  match ← get with
  | [] => throw .endOfFile
  | b :: rest => set rest; pure b

/-- A word of `k` bytes, most significant first. -/
def word (k : Nat) : Reader Nat := do
  match Bytes.split? k (← get) with
  | none => throw .endOfFile
  | some (w, rest) => set rest; pure (Bytes.ofBigEndian w)

/-- An integer of two bytes. -/
def int16 : Reader Int16 := return (UInt16.ofNat (← word 2)).toInt16

/-- An integer of four bytes. -/
def int32 : Reader Int32 := return (UInt32.ofNat (← word 4)).toInt32

/-- An integer of eight bytes. -/
def int64 : Reader Int64 := return (UInt64.ofNat (← word 8)).toInt64

/-- A double by its bits. -/
def double : Reader Double := return ⟨UInt64.ofNat (← word 8)⟩

/-- A truth value: any byte but zero is true. -/
def bool : Reader Bool := return (← byte) != 0

/-- A type byte. -/
def wireType : Reader WireType := do
  let code := (← byte).toNat
  match WireType.ofCode? code with
  | some type => pure type
  | none => throw (.unknownType code)

/-- A byte string behind its length, which is held against what is left before anything is
taken. -/
def bytes : Reader Bytes := do
  let length := (← int32).toInt
  if length < 0 then throw (.negativeByteLength length)
  else
    let left ← get
    match Bytes.split? length.toNat left with
    | some (bs, rest) => set rest; pure bs
    | none => throw (.byteLengthExceeds length.toNat left.length)

/-- A text behind its length. -/
def text : Reader String := do
  match Utf8.decode (← bytes) with
  | .ok s => pure s
  | .error fault => throw (.badText fault)

/-! ### Records and lists -/

/-- The type and the id of the next field; nothing at the end of the record. -/
def fieldHead : Reader (Option (WireType × Int)) := do
  let type ← wireType
  if type = .stop then pure none
  else
    let id ← int16
    pure (some (type, id.toInt))

/-- Reads fields into a state until the record is closed, at most as many as the first argument
says. -/
def fieldsUpTo {σ : Type} (step : σ → Int → WireType → Reader σ) : Nat → σ → Reader σ
  | 0, _ => throw .endOfFile
  | more + 1, s => do
    match ← fieldHead with
    | none => pure s
    | some (type, id) =>
      let s ← step s id type
      fieldsUpTo step more s

/-- Reads the fields of a record into a state.  Every field takes bytes, so there are at most as
many fields as bytes; where no byte is left the record is cut off. -/
def fields {σ : Type} (step : σ → Int → WireType → Reader σ) (start : σ) : Reader σ := do
  fieldsUpTo step (← get).length start

/-- The element type and the size of a list or set. -/
def listHead : Reader (WireType × Int) := do
  let type ← wireType
  let size ← int32
  pure (type, size.toInt)

/-- Reads `n` items. -/
def many {α : Type} (item : Reader α) : Nat → Reader (List α)
  | 0 => pure []
  | n + 1 => do
    let x ← item
    let xs ← many item n
    pure (x :: xs)

/-- Reads a list of records; the element type is not looked at. -/
def listOf {α : Type} (item : Reader α) : Reader (List α) := do
  let (_, size) ← listHead
  if size < 0 then throw (.negativeListSize size) else many item size.toNat

/-- A field that a record must have. -/
def required {α : Type} (record field : String) : Option α → Reader α
  | some x => pure x
  | none => throw (.missingField record field)

/-! ### Passing over values -/

/-- Does a thing `n` times. -/
def times (act : Reader Unit) : Nat → Reader Unit
  | 0 => pure ()
  | n + 1 => do
    act
    times act n

/-- Passes over a value of a type, at most `depth` levels of nesting deep.  A negative size counts
as zero, and a map's keys come before its values. -/
def skip : Nat → WireType → Reader Unit
  | 0, type => throw (.tooDeep type)
  | depth + 1, type =>
    match type with
    | .bool | .i08 => discard byte
    | .i16 => discard (word 2)
    | .i32 => discard (word 4)
    | .i64 | .double => discard (word 8)
    | .string => discard text
    | .struct => fields (fun _ _ type => skip depth type) ()
    | .list | .set => do
      let (element, size) ← listHead
      times (skip depth element) size.toNat
    | .map => do
      let key ← wireType
      let value ← wireType
      let size ← int32
      times (do skip depth key; skip depth value) size.toInt.toNat
    | .stop | .void | .utf8 | .utf16 => throw (.cannotSkip type)

/-- How deep values that are passed over may be nested. -/
def maxDepth : Nat := 64

/-! ### Writers -/

/-- The head of a field. -/
def writeHead (type : WireType) (id : Nat) : Bytes :=
  UInt8.ofNat type.code :: Bytes.bigEndian 2 id

/-- An integer of four bytes. -/
def writeInt32 (n : Int32) : Bytes := Bytes.bigEndian 4 n.toUInt32.toNat

/-- An integer of eight bytes. -/
def writeInt64 (n : Int64) : Bytes := Bytes.bigEndian 8 n.toUInt64.toNat

/-- A double by its bits. -/
def writeDouble (d : Double) : Bytes := Bytes.bigEndian 8 d.bits.toNat

/-- A truth value. -/
def writeBool (b : Bool) : Bytes := [if b then 1 else 0]

/-- A byte string behind its length. -/
def writeBytes (bs : Bytes) : Bytes := Bytes.bigEndian 4 bs.length ++ bs

/-- A text behind its length. -/
def writeText (s : String) : Bytes := writeBytes (Utf8.encode s)

/-- A list of records behind element type and size. -/
def writeList {α : Type} (item : α → Bytes) (xs : List α) : Bytes :=
  UInt8.ofNat WireType.struct.code :: (Bytes.bigEndian 4 xs.length ++ xs.flatMap item)

/-- A field that may be absent. -/
def writeOptional {α : Type} (type : WireType) (id : Nat) (value : α → Bytes) : Option α → Bytes
  | some x => writeHead type id ++ value x
  | none => []

/-- The end of a record. -/
def stop : Bytes := [0]

end SpanIntake.Thrift

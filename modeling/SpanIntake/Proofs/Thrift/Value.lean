/-
**Values of the Thrift protocol.**

A value on the wire is a number, a truth value, a byte string — the protocol has one type for texts
and byte strings — or a record, list, set or map of values.  This module gives values a type of
their own and writes them as bytes, so that what a reader makes of a byte string can be said by
cases of the value it spells.

Main definitions:

* `Thrift.Value` — a value, `Thrift.Field` — an id with a value;
* `Thrift.Value.bytes`, `Thrift.fieldsBytes` — how values and fields are written;
* `Thrift.Value.WellFormed` — sizes fit their words, and items have the type that is announced;
* `Thrift.Value.depth` — how deep values are nested in a value;
* `Thrift.Value.Textual` — every byte string in a value is the UTF-8 of a text.

Main results:

* `Thrift.Value.depth_lt_succ_iff` — a value is nested less deep than its container;
* `Thrift.fieldsBytes_append` — fields are written one behind the other.
-/

import SpanIntake.Thrift.Codec

set_option relaxedAutoImplicit false
set_option autoImplicit false

namespace SpanIntake.Thrift

/-! ### Values -/

/-- A value on the wire. -/
inductive Value where
  /-- A truth value. -/
  | bool (b : Bool)
  /-- An integer of one byte. -/
  | i08 (b : UInt8)
  /-- An integer of two bytes. -/
  | i16 (n : Int16)
  /-- An integer of four bytes. -/
  | i32 (n : Int32)
  /-- An integer of eight bytes. -/
  | i64 (n : Int64)
  /-- A double. -/
  | double (d : Double)
  /-- A text or a byte string. -/
  | string (bs : Bytes)
  /-- A record: fields with their ids. -/
  | struct (fields : List (Int16 × Value))
  /-- A list of values of one type. -/
  | list (element : WireType) (items : List Value)
  /-- A set of values of one type. -/
  | set (element : WireType) (items : List Value)
  /-- A map, with one type for its keys and one for what they map to. -/
  | map (key value : WireType) (entries : List (Value × Value))

/-- A field of a record: its id and its value. -/
abbrev Field := Int16 × Value

namespace Value

/-- The type of a value. -/
def type : Value → WireType
  | .bool _ => .bool
  | .i08 _ => .i08
  | .i16 _ => .i16
  | .i32 _ => .i32
  | .i64 _ => .i64
  | .double _ => .double
  | .string _ => .string
  | .struct _ => .struct
  | .list _ _ => .list
  | .set _ _ => .set
  | .map _ _ _ => .map

theorem type_ne_stop (v : Value) : v.type ≠ .stop := by
  cases v <;> simp [type]

/-- The values directly inside a value, in the order they are written. -/
def children : Value → List Value
  | .struct fields => fields.map (·.2)
  | .list _ items | .set _ items => items
  | .map _ _ entries => entries.flatMap fun e => [e.1, e.2]
  | _ => []

theorem sizeOf_lt_of_mem_children {v c : Value} (h : c ∈ v.children) : sizeOf c < sizeOf v := by
  cases v with
  | struct fields =>
      obtain ⟨f, hf, rfl⟩ := List.mem_map.1 h
      have hlt := List.sizeOf_lt_of_mem hf
      have hsnd : sizeOf f = 1 + sizeOf f.1 + sizeOf f.2 := by cases f; rfl
      simp only [struct.sizeOf_spec]
      omega
  | list _ items =>
      have hlt := List.sizeOf_lt_of_mem (show c ∈ items from h)
      simp only [list.sizeOf_spec]
      omega
  | set _ items =>
      have hlt := List.sizeOf_lt_of_mem (show c ∈ items from h)
      simp only [set.sizeOf_spec]
      omega
  | map _ _ entries =>
      obtain ⟨e, he, hc⟩ := List.mem_flatMap.1 h
      have hlt := List.sizeOf_lt_of_mem he
      have hpair : sizeOf e = 1 + sizeOf e.1 + sizeOf e.2 := by cases e; rfl
      simp only [map.sizeOf_spec]
      have hsides : c = e.1 ∨ c = e.2 := by simpa using hc
      rcases hsides with rfl | rfl <;> omega
  | _ => simp [children] at h

end Value

/-! ### Bytes -/

/-- The head of a list or set: the type of its items and their number. -/
def itemsHead (element : WireType) (n : Nat) : Bytes :=
  UInt8.ofNat element.code :: Bytes.bigEndian 4 n

/-- The head of a map. -/
def mapHead (key value : WireType) (n : Nat) : Bytes :=
  UInt8.ofNat key.code :: itemsHead value n

mutual

/-- The bytes of a value. -/
def Value.bytes : Value → Bytes
  | .bool b => writeBool b
  | .i08 b => [b]
  | .i16 n => Bytes.bigEndian 2 n.toUInt16.toNat
  | .i32 n => writeInt32 n
  | .i64 n => writeInt64 n
  | .double d => writeDouble d
  | .string bs => writeBytes bs
  | .struct fields => fieldsBytes fields ++ stop
  | .list element items | .set element items =>
    itemsHead element items.length ++ itemsBytes items
  | .map key value entries => mapHead key value entries.length ++ entriesBytes entries

/-- The bytes of fields, without the end of their record. -/
def fieldsBytes : List (Int16 × Value) → Bytes
  | [] => []
  | (id, v) :: fields => writeHead v.type id.toUInt16.toNat ++ v.bytes ++ fieldsBytes fields

/-- The bytes of the items of a list or set. -/
def itemsBytes : List Value → Bytes
  | [] => []
  | v :: items => v.bytes ++ itemsBytes items

/-- The bytes of the entries of a map. -/
def entriesBytes : List (Value × Value) → Bytes
  | [] => []
  | (k, v) :: entries => k.bytes ++ v.bytes ++ entriesBytes entries

end

/-- The bytes of a field. -/
def Field.bytes (f : Field) : Bytes := writeHead f.2.type f.1.toUInt16.toNat ++ f.2.bytes

theorem fieldsBytes_nil : fieldsBytes [] = [] := rfl

theorem fieldsBytes_cons (f : Field) (fs : List Field) :
    fieldsBytes (f :: fs) = Field.bytes f ++ fieldsBytes fs := rfl

theorem fieldsBytes_append (fs gs : List Field) :
    fieldsBytes (fs ++ gs) = fieldsBytes fs ++ fieldsBytes gs := by
  induction fs with
  | nil => rfl
  | cons f fs ih => rw [List.cons_append, fieldsBytes_cons, fieldsBytes_cons, ih, List.append_assoc]

/-- A field has a type byte, whatever its value. -/
theorem length_le_length_fieldsBytes (fs : List Field) : fs.length ≤ (fieldsBytes fs).length := by
  induction fs with
  | nil => exact Nat.le_refl 0
  | cons f fs ih =>
      simp only [fieldsBytes_cons, Field.bytes, writeHead, List.length_append, List.length_cons]
      omega

theorem itemsBytes_eq (items : List Value) : itemsBytes items = items.flatMap Value.bytes := by
  induction items with
  | nil => rfl
  | cons v items ih => rw [itemsBytes, ih, List.flatMap_cons]

theorem entriesBytes_eq (entries : List (Value × Value)) :
    entriesBytes entries = entries.flatMap fun e => e.1.bytes ++ e.2.bytes := by
  induction entries with
  | nil => rfl
  | cons e entries ih => rw [entriesBytes, ih, List.flatMap_cons]

/-! ### Well-formed values -/

namespace Value

/-- What sizes and announced types demand of a value, its inner values apart. -/
def Fits : Value → Prop
  | .string bs => bs.length < listLimit
  | .list element items | .set element items =>
    items.length < listLimit ∧ ∀ v ∈ items, v.type = element
  | .map key value entries =>
    entries.length < listLimit ∧ ∀ e ∈ entries, e.1.type = key ∧ e.2.type = value
  | _ => True

/-- Sizes fit their words, and items have the type that is announced, all the way down. -/
inductive WellFormed : Value → Prop
  | intro {v : Value} (own : v.Fits) (inner : ∀ c ∈ v.children, WellFormed c) : WellFormed v

theorem WellFormed.fits {v : Value} (h : v.WellFormed) : v.Fits := by
  cases h with
  | intro own _ => exact own

theorem WellFormed.child {v c : Value} (h : v.WellFormed) (hc : c ∈ v.children) :
    c.WellFormed := by
  cases h with
  | intro _ inner => exact inner c hc

/-- A value without inner ones is well-formed if it fits. -/
theorem WellFormed.of_children_eq_nil {v : Value} (hfits : v.Fits) (h : v.children = []) :
    v.WellFormed := by
  refine .intro hfits fun c hc => ?_
  rw [h] at hc
  cases hc

/-- A record is well-formed if the values of its fields are. -/
theorem wellFormed_struct_iff {fs : List (Int16 × Value)} :
    (struct fs).WellFormed ↔ ∀ f ∈ fs, f.2.WellFormed := by
  constructor
  · intro h f hf
    exact h.child (List.mem_map_of_mem hf)
  · intro h
    refine .intro trivial fun c hc => ?_
    obtain ⟨f, hf, rfl⟩ := List.mem_map.1 hc
    exact h f hf

/-! ### Nesting -/

/-- How many values a value in this one may be nested in: zero for a value without inner ones. -/
def depth (v : Value) : Nat :=
  (v.children.attach.map fun c => c.1.depth + 1).foldr max 0
termination_by sizeOf v
decreasing_by exact sizeOf_lt_of_mem_children c.2

theorem foldr_max_lt_succ_iff (ns : List Nat) (d : Nat) :
    (ns.map (· + 1)).foldr max 0 < d + 1 ↔ ∀ n ∈ ns, n < d := by
  induction ns with
  | nil => simp
  | cons n ns ih =>
      simp only [List.map_cons, List.foldr_cons, List.forall_mem_cons, ← ih]
      omega

/-- **A value is nested less deep than its container.** -/
theorem depth_lt_succ_iff (v : Value) (d : Nat) :
    v.depth < d + 1 ↔ ∀ c ∈ v.children, c.depth < d := by
  have hdepth : v.depth = ((v.children.map depth).map (· + 1)).foldr max 0 := by
    rw [depth, List.map_map]
    simp only [List.map_attach_eq_pmap, List.pmap_eq_map, Function.comp_def]
  rw [hdepth, foldr_max_lt_succ_iff, List.forall_mem_map]

/-- Every byte string in a value is the UTF-8 of a text. -/
inductive Textual : Value → Prop
  | intro {v : Value} (own : ∀ bs, v = .string bs → ∃ s, Utf8.encode s = bs)
      (inner : ∀ c ∈ v.children, Textual c) : Textual v

theorem textual_iff (v : Value) :
    v.Textual ↔ (∀ bs, v = .string bs → ∃ s, Utf8.encode s = bs) ∧
      ∀ c ∈ v.children, c.Textual := by
  constructor
  · intro h
    cases h with
    | intro own inner => exact ⟨own, inner⟩
  · rintro ⟨own, inner⟩
    exact .intro own inner

end Value

end SpanIntake.Thrift

/-
**Attributes.**

An attribute value is a truth value, a 64-bit integer, a double, a text or a byte string.
Attributes map keys to values; the map is kept as a list that is sorted by key, keys compared
character by character, so that equal maps are equal lists and every listing has one order.

Main definitions

* `AttributeValue` and its text form `AttributeValue.toText`;
* `Attributes` — a map from keys to values with `get?`, `insert`, `erase` and `ofList`.

Main results

* `Attributes.get?_insert` — a key looked up after an insertion;
* `Attributes.get?_erase` — a key looked up after a removal.
-/

import SpanIntake.Bytes.Base64
import SpanIntake.Decimal.Shortest

set_option relaxedAutoImplicit false
set_option autoImplicit false

namespace SpanIntake

/-- The value of an attribute. -/
inductive AttributeValue where
  /-- A truth value. -/
  | bool (b : Bool)
  /-- A signed 64-bit integer. -/
  | int (n : Int64)
  /-- A double. -/
  | double (d : Double)
  /-- A text. -/
  | text (s : String)
  /-- A byte string. -/
  | bytes (bs : Bytes)
  deriving DecidableEq, Repr

namespace AttributeValue

/-- The text of a value: integers in decimal, doubles in their shortest decimal without exponent,
bytes in base64. -/
def toText : AttributeValue → String
  | .bool b => if b then "true" else "false"
  | .int n => toString n.toInt
  | .double d => d.toText
  | .text s => s
  | .bytes bs => Base64.encode bs

/-- The text, where the value is one. -/
def text? : AttributeValue → Option String
  | .text s => some s
  | _ => none

/-- The value turned into its text. -/
def asText (v : AttributeValue) : AttributeValue := .text v.toText

@[simp] theorem asText_asText (v : AttributeValue) : v.asText.asText = v.asText := rfl

end AttributeValue

/-- Keys with their values, sorted by key and without repetition. -/
structure Attributes where
  /-- The pairs in the order of their keys. -/
  entries : List (String × AttributeValue)
  /-- Every key is smaller than the keys behind it. -/
  sorted : entries.Pairwise (fun x y => x.1 < y.1)
  deriving DecidableEq

namespace Attributes

/-! ### Sorted lists of pairs -/

/-- Puts a pair in its place, in the place of a pair with the same key if there is one. -/
def insertEntry (key : String) (value : AttributeValue) :
    List (String × AttributeValue) → List (String × AttributeValue)
  | [] => [(key, value)]
  | (k, v) :: rest =>
    if key < k then (key, value) :: (k, v) :: rest
    else if key = k then (key, value) :: rest
    else (k, v) :: insertEntry key value rest

theorem mem_insertEntry {key : String} {value : AttributeValue}
    {xs : List (String × AttributeValue)} {p : String × AttributeValue}
    (h : p ∈ insertEntry key value xs) : p = (key, value) ∨ p ∈ xs := by
  induction xs with
  | nil => simpa [insertEntry] using h
  | cons x rest ih =>
    obtain ⟨k, v⟩ := x
    simp only [insertEntry] at h
    split at h
    · simpa using h
    · split at h
      · rcases List.mem_cons.1 h with h | h
        · exact .inl h
        · exact .inr (List.mem_cons_of_mem _ h)
      · rcases List.mem_cons.1 h with h | h
        · exact .inr (h ▸ List.mem_cons_self)
        · exact (ih h).imp_right (List.mem_cons_of_mem _)

theorem sorted_insertEntry (key : String) (value : AttributeValue)
    {xs : List (String × AttributeValue)} (h : xs.Pairwise (fun x y => x.1 < y.1)) :
    (insertEntry key value xs).Pairwise (fun x y => x.1 < y.1) := by
  induction xs with
  | nil => simp [insertEntry]
  | cons x rest ih =>
    obtain ⟨k, v⟩ := x
    have ⟨hk, hrest⟩ := List.pairwise_cons.1 h
    simp only [insertEntry]
    split
    · rename_i hlt
      refine List.pairwise_cons.2 ⟨fun p hp => ?_, h⟩
      rcases List.mem_cons.1 hp with rfl | hp
      · exact hlt
      · exact String.lt_trans hlt (hk p hp)
    · split
      · rename_i heq
        subst heq
        exact List.pairwise_cons.2 ⟨hk, hrest⟩
      · rename_i hlt hne
        refine List.pairwise_cons.2 ⟨fun p hp => ?_, ih hrest⟩
        rcases mem_insertEntry hp with rfl | hp
        · exact Std.lt_of_le_of_ne (Std.not_lt.1 hlt) (Ne.symm hne)
        · exact hk p hp

/-! ### The map -/

/-- No attributes. -/
def empty : Attributes := ⟨[], .nil⟩

instance : Inhabited Attributes := ⟨empty⟩

/-- Whether there are no attributes. -/
def isEmpty (a : Attributes) : Bool := a.entries.isEmpty

/-- The value of a key. -/
def get? (a : Attributes) (key : String) : Option AttributeValue :=
  (a.entries.find? (·.1 == key)).map (·.2)

/-- Whether a key has a value. -/
def contains (a : Attributes) (key : String) : Bool := (a.get? key).isSome

/-- Gives a key a value, in the place of the one it had. -/
def insert (a : Attributes) (key : String) (value : AttributeValue) : Attributes :=
  ⟨insertEntry key value a.entries, sorted_insertEntry key value a.sorted⟩

/-- Takes a key out. -/
def erase (a : Attributes) (key : String) : Attributes :=
  ⟨a.entries.filter (·.1 != key), a.sorted.sublist List.filter_sublist⟩

/-- The map of a list of pairs; of two pairs with one key the later one counts. -/
def ofList (xs : List (String × AttributeValue)) : Attributes :=
  xs.foldl (fun a x => a.insert x.1 x.2) empty

/-- The map with every value turned into its text. -/
def asText (a : Attributes) : Attributes :=
  ⟨a.entries.map fun x => (x.1, x.2.asText), by
    simpa [List.pairwise_map] using a.sorted⟩

theorem get?_empty (key : String) : empty.get? key = none := rfl

theorem get?_insert (a : Attributes) (key : String) (value : AttributeValue) (other : String) :
    (a.insert key value).get? other = if other = key then some value else a.get? other := by
  obtain ⟨xs, hxs⟩ := a
  simp only [get?, insert]
  induction xs with
  | nil =>
    by_cases h : other = key
    · simp [insertEntry, h]
    · simp [insertEntry, h, Ne.symm h]
  | cons x rest ih =>
    obtain ⟨k, v⟩ := x
    have ih := ih (List.pairwise_cons.1 hxs).2
    simp only [insertEntry]
    split
    · by_cases h : other = key
      · simp [h]
      · simp [h, Ne.symm h, List.find?_cons]
    · split
      · rename_i heq
        subst heq
        by_cases h : other = key
        · simp [h]
        · simp [h, Ne.symm h]
      · rename_i hne
        by_cases h : k = other
        · have : ¬ other = key := fun h' => hne (h'.symm.trans h.symm)
          simp [h, this]
        · simpa [List.find?_cons, h] using ih

theorem get?_erase (a : Attributes) (key other : String) :
    (a.erase key).get? other = if other = key then none else a.get? other := by
  obtain ⟨xs, hxs⟩ := a
  simp only [get?, erase]
  induction xs with
  | nil => simp
  | cons x rest ih =>
    have ih := ih (List.pairwise_cons.1 hxs).2
    by_cases hk : x.1 = key
    · by_cases ho : other = key
      · simp [ho]
      · simpa [List.filter_cons, List.find?_cons, hk, ho, Ne.symm ho] using ih
    · by_cases ho : x.1 = other
      · have : ¬ other = key := fun h => hk (ho.trans h)
        simp [ho, this]
      · simpa [List.filter_cons, List.find?_cons, hk, ho] using ih

end Attributes

end SpanIntake

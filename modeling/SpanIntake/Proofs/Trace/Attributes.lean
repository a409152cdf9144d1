/-
**Attributes are what their keys say.**

A map of attributes is determined by the values of its keys, since it is kept sorted.  Of a list of
pairs the map has the last value of every key, so that lists put behind one another are maps one of
which overrides the other.

Main results:

* `Attributes.ext_get?` — **maps in which every key has the same value are equal**;
* `Attributes.get?_ofList_append` — of two lists of pairs the second one counts, where it has the
  key;
* `Attributes.mem_keys_iff`, `Attributes.contains_ofList_map_iff` — the keys of a map;
* `Attributes.ofList_entries` — the entries of a map make it up again.
-/

import SpanIntake.Trace.Attribute

set_option relaxedAutoImplicit false
set_option autoImplicit false

namespace SpanIntake.Attributes

/-! ### Keys and entries -/

theorem nodup_keys (a : Attributes) : (a.entries.map Prod.fst).Nodup := by
  refine List.pairwise_map.2 (a.sorted.imp fun {x y} hlt heq => ?_)
  rw [heq] at hlt
  exact String.lt_irrefl y.1 hlt

theorem nodup_entries (a : Attributes) : a.entries.Nodup :=
  (List.pairwise_map.1 a.nodup_keys).imp fun hne heq => hne (congrArg Prod.fst heq)

/-- An entry is found under its key, and nothing else is. -/
theorem get?_eq_some_iff {a : Attributes} {key : String} {value : AttributeValue} :
    a.get? key = some value ↔ (key, value) ∈ a.entries := by
  obtain ⟨xs, hxs⟩ := a
  simp only [get?]
  induction xs with
  | nil => simp
  | cons x rest ih =>
      obtain ⟨hlt, hrest⟩ := List.pairwise_cons.1 hxs
      by_cases hx : x.1 = key
      · have hnot : (key, value) ∉ rest := by
          intro hmem
          have hkey := hlt (key, value) hmem
          rw [hx] at hkey
          exact String.lt_irrefl key hkey
        obtain ⟨k, v⟩ := x
        obtain rfl : k = key := hx
        simp [hnot, eq_comm]
      · have hne : x ≠ (key, value) := fun heq => hx (congrArg Prod.fst heq)
        simpa [List.find?_cons, hx, hne.symm] using ih hrest

theorem mem_keys_iff {a : Attributes} {key : String} :
    key ∈ a.entries.map Prod.fst ↔ a.contains key = true := by
  rw [contains, Option.isSome_iff_exists, List.mem_map]
  simp only [get?_eq_some_iff]
  constructor
  · rintro ⟨⟨k, value⟩, hmem, rfl⟩
    exact ⟨value, hmem⟩
  · rintro ⟨value, hmem⟩
    exact ⟨_, hmem, rfl⟩

/-- **Maps in which every key has the same value are equal.** -/
theorem ext_get? {a b : Attributes} (h : ∀ key, a.get? key = b.get? key) : a = b := by
  have hmem : ∀ x, x ∈ a.entries ↔ x ∈ b.entries := by
    intro x
    rw [← @get?_eq_some_iff a x.1 x.2, ← @get?_eq_some_iff b x.1 x.2, h]
  -- two strictly sorted lists of the same entries are one list
  have hperm := (List.perm_ext_iff_of_nodup a.nodup_entries b.nodup_entries).2 hmem
  have hentries : a.entries = b.entries :=
    hperm.eq_of_pairwise (fun x y _ _ hxy hyx => (String.lt_asymm hxy hyx).elim) a.sorted b.sorted
  obtain ⟨xs, _⟩ := a
  obtain ⟨ys, _⟩ := b
  obtain rfl : xs = ys := hentries
  rfl

theorem get?_asText (a : Attributes) (key : String) :
    a.asText.get? key = (a.get? key).map AttributeValue.asText := by
  obtain ⟨xs, _⟩ := a
  simp only [get?, asText, List.find?_map, Option.map_map]
  rfl

theorem contains_asText (a : Attributes) (key : String) :
    a.asText.contains key = a.contains key := by
  rw [contains, get?_asText, Option.isSome_map, contains]

/-- Texts are their own texts. -/
theorem asText_asText (a : Attributes) : a.asText.asText = a.asText := by
  refine ext_get? fun key => ?_
  rw [get?_asText, get?_asText, Option.map_map]
  rfl

/-! ### Lists of pairs -/

/-- **A key has the last value that the list has for it.** -/
theorem get?_ofList (xs : List (String × AttributeValue)) (key : String) :
    (ofList xs).get? key = (xs.reverse.find? (·.1 == key)).map (·.2) := by
  rw [ofList, List.foldl_eq_foldr_reverse]
  -- turned round, the list is inserted from its tail on, and its head counts
  induction xs.reverse with
  | nil => rfl
  | cons x rest ih =>
      rw [List.foldr_cons, get?_insert, ih]
      by_cases hx : x.1 = key
      · simp [hx]
      · simp [hx, Ne.symm hx]

theorem get?_ofList_nil (key : String) : (ofList []).get? key = none := rfl

theorem get?_ofList_singleton (x : String × AttributeValue) (key : String) :
    (ofList [x]).get? key = if key = x.1 then some x.2 else none := by
  rw [ofList, List.foldl_cons, List.foldl_nil, get?_insert, get?_empty]

/-- Of two lists behind one another the second one counts, where it has the key. -/
theorem get?_ofList_append (xs ys : List (String × AttributeValue)) (key : String) :
    (ofList (xs ++ ys)).get? key = ((ofList ys).get? key).or ((ofList xs).get? key) := by
  simp only [get?_ofList, List.reverse_append, List.find?_append, Option.map_or]

theorem mem_of_get?_ofList {xs : List (String × AttributeValue)} {key : String}
    {value : AttributeValue} (h : (ofList xs).get? key = some value) : (key, value) ∈ xs := by
  rw [get?_ofList, Option.map_eq_some_iff] at h
  obtain ⟨x, hfind, rfl⟩ := h
  have hkey : x.1 = key := by simpa using List.find?_some hfind
  have hmem := List.mem_reverse.1 (List.mem_of_find?_eq_some hfind)
  rwa [← hkey]

theorem isSome_get?_ofList_iff {xs : List (String × AttributeValue)} {key : String} :
    ((ofList xs).get? key).isSome = true ↔ ∃ value, (key, value) ∈ xs := by
  rw [get?_ofList, Option.isSome_map, List.find?_isSome]
  constructor
  · rintro ⟨⟨k, v⟩, hmem, hkey⟩
    obtain rfl : k = key := by simpa using hkey
    exact ⟨v, List.mem_reverse.1 hmem⟩
  · rintro ⟨v, hmem⟩
    exact ⟨(key, v), List.mem_reverse.2 hmem, beq_self_eq_true key⟩

/-- A map has the keys of the items that it is made of. -/
theorem contains_ofList_map_iff {α : Type} {xs : List α} {key : α → String}
    {value : α → AttributeValue} {k : String} :
    (ofList (xs.map fun x => (key x, value x))).contains k = true ↔ ∃ x ∈ xs, key x = k := by
  rw [contains, isSome_get?_ofList_iff]
  simp only [List.mem_map, Prod.mk.injEq]
  constructor
  · rintro ⟨_, x, hx, hkey, _⟩
    exact ⟨x, hx, hkey⟩
  · rintro ⟨x, hx, hkey⟩
    exact ⟨value x, x, hx, hkey, rfl⟩

/-- The entries of a map make it up again. -/
theorem ofList_entries (a : Attributes) : ofList a.entries = a := by
  refine ext_get? fun key => ?_
  cases hget : a.get? key with
  | some value =>
      have hsome := isSome_get?_ofList_iff.2 ⟨value, get?_eq_some_iff.1 hget⟩
      obtain ⟨other, hother⟩ := Option.isSome_iff_exists.1 hsome
      -- what is found is an entry, and an entry is found
      have hentry := get?_eq_some_iff.2 (mem_of_get?_ofList hother)
      rw [hother, ← hget, hentry]
  | none =>
      cases hother : (ofList a.entries).get? key with
      | none => rfl
      | some value =>
          have hentry := get?_eq_some_iff.2 (mem_of_get?_ofList hother)
          rw [hget] at hentry
          cases hentry

end SpanIntake.Attributes

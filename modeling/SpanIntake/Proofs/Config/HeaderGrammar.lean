/-
**The grammar of header lists.**

A text of headers is cut at its commas.  An entry of blanks only says nothing; every other entry
has to have an equals sign, the first of which ends a name that is not blank.  Since entries are read
one by one, two texts with a comma between them say what the first says and then what the second
says, and the first entry that cannot be read is the one that is reported.

Main definitions:

* `HeaderList.States` — an entry states a header;
* `HeaderList.spoken` — the entries of a text that are not blank;
* `HeaderList.Plain` — a header that can be written as it is.

Main results:

* `HeaderList.entry_eq_ok_none_iff`, `HeaderList.entry_eq_ok_some_iff` — what an entry says;
* `HeaderList.parse_eq_ok_iff` — the headers of a text;
* `HeaderList.parse_append` — two texts with a comma between them;
* `HeaderList.parse_write_of_plain` — headers are read back from their text;
* `HeaderList.parse_grammar` — **all of that together**.
-/

import SpanIntake.Config.Headers
import SpanIntake.Proofs.Checks.Row
import SpanIntake.Proofs.Text.Trimming

set_option relaxedAutoImplicit false
set_option autoImplicit false

namespace SpanIntake

open Blank (AllBlank)

theorem pieces_eq_splitOn (c : Char) (cs : List Char) : pieces (· = c) cs = cs.splitOn c := by
  induction cs with
  | nil => rfl
  | cons d ds ih =>
      rw [pieces, List.splitOn_cons_eq_if_modifyHead, ih]
      by_cases h : d = c
      · simp [h]
      · obtain ⟨p, ps, hp⟩ := List.exists_cons_of_ne_nil (List.splitOn_ne_nil c ds)
        simp [h, hp]

namespace HeaderList

variable {e name value : List Char} {h : String × String}

/-! ### Entries -/

/-- An entry states a header: its first equals sign ends a name that is not blank, and what follows
is the value.  Both are trimmed. -/
def States (e : List Char) (h : String × String) : Prop :=
  ∃ name value, e = name ++ '=' :: value ∧ '=' ∉ name ∧ ¬ AllBlank name ∧
    h = (String.ofList (Blank.trimChars name), String.ofList (Blank.trimChars value))

theorem splitEquals?_of_not_mem (h : '=' ∉ e) : splitEquals? e = none := by
  induction e with
  | nil => rfl
  | cons c cs ih =>
      simp only [List.mem_cons, not_or] at h
      obtain ⟨hc, hcs⟩ := h
      rw [splitEquals?, if_neg (Ne.symm hc), ih hcs, Option.map_none]

theorem splitEquals?_append (h : '=' ∉ name) (value : List Char) :
    splitEquals? (name ++ '=' :: value) = some (name, value) := by
  induction name with
  | nil => rfl
  | cons c cs ih =>
      simp only [List.mem_cons, not_or] at h
      obtain ⟨hc, hcs⟩ := h
      rw [List.cons_append, splitEquals?, if_neg (Ne.symm hc), ih hcs, Option.map_some]

/-- An entry without an equals sign is blank or no header. -/
theorem entry_of_not_mem (h : '=' ∉ e) :
    entry e = if AllBlank e then .ok none else .error .noEquals := by
  have hsplit : splitEquals? (Blank.trimChars e) = none :=
    splitEquals?_of_not_mem fun hmem => h (Blank.mem_of_mem_trimChars hmem)
  simp only [entry, List.isEmpty_iff, Blank.trimChars_eq_nil_iff, hsplit]

/-- Of an entry with an equals sign the name and the value are trimmed as they stand in it, since
trimming the entry before takes away only blanks that are trimmed again. -/
theorem entry_append (hname : '=' ∉ name) (value : List Char) :
    entry (name ++ '=' :: value) =
      if AllBlank name then .error .emptyName
      else .ok (some (String.ofList (Blank.trimChars name),
        String.ofList (Blank.trimChars value))) := by
  have htrim : Blank.trimChars (name ++ '=' :: value) =
      Blank.dropBlanks name ++ '=' :: value.rdropWhile Blank.isBlank :=
    Blank.trimChars_append_cons (by decide) name value
  have hnot : '=' ∉ Blank.dropBlanks name :=
    fun hmem => hname ((List.dropWhile_sublist _).subset hmem)
  have hcons :
      (Blank.dropBlanks name ++ '=' :: value.rdropWhile Blank.isBlank).isEmpty = false := by simp
  simp only [entry, htrim, hcons, Bool.false_eq_true, if_false, splitEquals?_append hnot,
    Blank.trimChars_dropBlanks, Blank.trimChars_rdropWhile, List.isEmpty_iff,
    Blank.trimChars_eq_nil_iff]

/-- An entry has no equals sign, or it is cut at its first. -/
theorem exists_append_of_mem (h : '=' ∈ e) :
    ∃ name value, e = name ++ '=' :: value ∧ '=' ∉ name :=
  List.eq_append_cons_of_mem h

theorem not_allBlank_append (name value : List Char) : ¬ AllBlank (name ++ '=' :: value) := by
  intro hblank
  exact absurd (hblank '=' (by simp)) (by decide)

/-- **An entry says nothing** exactly if it is blank. -/
theorem entry_eq_ok_none_iff : entry e = .ok none ↔ AllBlank e := by
  by_cases hmem : '=' ∈ e
  · obtain ⟨name, value, rfl, hname⟩ := exists_append_of_mem hmem
    rw [entry_append hname]
    refine iff_of_false ?_ (not_allBlank_append name value)
    split <;> simp
  · rw [entry_of_not_mem hmem]
    split
    · simpa
    · simpa

/-- **An entry says which header it states.** -/
theorem entry_eq_ok_some_iff : entry e = .ok (some h) ↔ States e h := by
  constructor
  · intro hentry
    by_cases hmem : '=' ∈ e
    · obtain ⟨name, value, rfl, hname⟩ := exists_append_of_mem hmem
      rw [entry_append hname] at hentry
      split at hentry
      · cases hentry
      · rename_i hblank
        cases hentry
        exact ⟨name, value, rfl, hname, hblank, rfl⟩
    · rw [entry_of_not_mem hmem] at hentry
      split at hentry <;> cases hentry
  · rintro ⟨name, value, rfl, hname, hblank, rfl⟩
    rw [entry_append hname, if_neg hblank]

/-! ### Lists of entries -/

theorem entries_cons (e : List Char) (es : List (List Char)) :
    entries (e :: es) = do
      let h ← entry e
      let hs ← entries es
      return h.toList ++ hs := by
  rw [entries]
  cases entry e with
  | error _ => rfl
  | ok h => cases entries es <;> rfl

/-- Entries are read one by one, so that the first that cannot be read is reported. -/
theorem entries_append (es fs : List (List Char)) :
    entries (es ++ fs) = do
      let hs ← entries es
      let ks ← entries fs
      return hs ++ ks := by
  induction es with
  | nil =>
      rw [List.nil_append, entries]
      cases entries fs <;> rfl
  | cons e es ih =>
      rw [List.cons_append, entries_cons, entries_cons, ih]
      cases entry e with
      | error _ => rfl
      | ok h =>
          cases entries es with
          | error _ => rfl
          | ok hs =>
              cases entries fs with
              | error _ => rfl
              | ok ks => exact congrArg Except.ok (List.append_assoc _ _ _).symm

/-- **The headers of entries** are those that the entries that are not blank state, in order. -/
theorem entries_eq_ok_iff {es : List (List Char)} {hs : List (String × String)} :
    entries es = .ok hs ↔ List.Forall₂ States (es.filter fun e => ¬ AllBlank e) hs := by
  induction es generalizing hs with
  | nil => simp [entries, eq_comm]
  | cons e es ih =>
      by_cases hblank : AllBlank e
      · have hnone : entry e = .ok none := entry_eq_ok_none_iff.2 hblank
        rw [List.filter_cons_of_neg (by simpa using hblank), ← ih, entries_cons, hnone]
        cases entries es <;> rfl
      · rw [List.filter_cons_of_pos (by simpa using hblank), List.forall₂_cons_left_iff,
          entries_cons]
        simp only [bind_eq_ok_iff, pure_eq_ok_iff]
        constructor
        · rintro ⟨h, hentry, ks, hks, rfl⟩
          cases h with
          | none => exact absurd (entry_eq_ok_none_iff.1 hentry) hblank
          | some h => exact ⟨h, ks, entry_eq_ok_some_iff.1 hentry, ih.1 hks, rfl⟩
        · rintro ⟨h, ks, hstates, hks, rfl⟩
          exact ⟨some h, entry_eq_ok_some_iff.2 hstates, ks, ih.2 hks, rfl⟩

/-! ### Texts -/

/-- The entries of a text that are not blank. -/
def spoken (s : String) : List (List Char) :=
  (s.toList.splitOn ',').filter fun e => ¬ AllBlank e

theorem parse_eq (s : String) : parse s = entries (s.toList.splitOn ',') := by
  rw [parse, pieces_eq_splitOn]

/-- **The headers of a text** are those that its entries state. -/
theorem parse_eq_ok_iff {s : String} {hs : List (String × String)} :
    parse s = .ok hs ↔ List.Forall₂ States (spoken s) hs := by
  rw [parse_eq, entries_eq_ok_iff, spoken]

theorem exists_forall₂_iff {es : List (List Char)} :
    (∃ hs, List.Forall₂ States es hs) ↔ ∀ e ∈ es, ∃ h, States e h := by
  induction es with
  | nil => simp
  | cons e es ih =>
      rw [List.forall_mem_cons, ← ih]
      constructor
      · rintro ⟨_, hforall⟩
        obtain ⟨h, hs, hh, hhs, rfl⟩ := List.forall₂_cons_left_iff.1 hforall
        exact ⟨⟨h, hh⟩, hs, hhs⟩
      · rintro ⟨⟨h, hh⟩, hs, hhs⟩
        exact ⟨h :: hs, .cons hh hhs⟩

/-- **A text is read** exactly if each of its entries that is not blank has a name. -/
theorem exists_parse_eq_ok_iff (s : String) :
    (∃ hs, parse s = .ok hs) ↔
      ∀ e ∈ spoken s, ∃ name value, e = name ++ '=' :: value ∧ '=' ∉ name ∧ ¬ AllBlank name := by
  simp only [parse_eq_ok_iff, exists_forall₂_iff]
  refine forall₂_congr fun e _ => ?_
  constructor
  · rintro ⟨_, name, value, he, hname, hblank, -⟩
    exact ⟨name, value, he, hname, hblank⟩
  · rintro ⟨name, value, he, hname, hblank⟩
    exact ⟨_, name, value, he, hname, hblank, rfl⟩

/-- **Two texts with a comma between them** say what the first says and then what the second
says. -/
theorem parse_append (a b : String) :
    parse (a ++ "," ++ b) = do
      let hs ← parse a
      let ks ← parse b
      return hs ++ ks := by
  have hlist : (a ++ "," ++ b).toList = a.toList ++ ',' :: b.toList := by simp
  rw [parse, hlist, pieces_append_cons _ (by decide), entries_append, parse, parse]

/-! ### Writing -/

/-- A header that can be written as it is: trimming leaves its name and its value alone, the name is
not empty, and neither holds a character that would end it. -/
structure Plain (h : String × String) : Prop where
  /-- There is a name. -/
  name_ne_empty : h.1 ≠ ""
  /-- The name has no blanks at its ends. -/
  trim_name : Blank.trim h.1 = h.1
  /-- The name holds no comma. -/
  comma_not_mem_name : ',' ∉ h.1.toList
  /-- The name holds no equals sign. -/
  equals_not_mem_name : '=' ∉ h.1.toList
  /-- The value has no blanks at its ends. -/
  trim_value : Blank.trim h.2 = h.2
  /-- The value holds no comma. -/
  comma_not_mem_value : ',' ∉ h.2.toList

/-- The entry of a header. -/
def written (h : String × String) : List Char := h.1.toList ++ '=' :: h.2.toList

theorem Plain.states {h : String × String} (hplain : Plain h) : States (written h) h := by
  refine ⟨h.1.toList, h.2.toList, rfl, hplain.equals_not_mem_name, ?_, ?_⟩
  · -- a name of blanks only would be trimmed to the empty one
    intro hblank
    have htrim := hplain.trim_name
    rw [Blank.trim, Blank.trimChars_eq_nil_iff.2 hblank] at htrim
    exact hplain.name_ne_empty htrim.symm
  · exact Prod.ext hplain.trim_name.symm hplain.trim_value.symm

theorem Plain.comma_not_mem_written {h : String × String} (hplain : Plain h) :
    ',' ∉ written h := by
  simp [written, hplain.comma_not_mem_name, hplain.comma_not_mem_value]

theorem States.not_allBlank {e : List Char} {h : String × String} (hstates : States e h) :
    ¬ AllBlank e := by
  obtain ⟨name, value, rfl, -⟩ := hstates
  exact not_allBlank_append name value

theorem toList_write (hs : List (String × String)) :
    (write hs).toList = [','].intercalate (hs.map written) := by
  rw [write, String.toList_intercalate, List.map_map]
  congr 1
  refine List.map_congr_left fun h _ => ?_
  simp [written]

/-- **Headers are read back from their text.** -/
theorem parse_write_of_plain {hs : List (String × String)} (hplain : ∀ h ∈ hs, Plain h) :
    parse (write hs) = .ok hs := by
  cases hs with
  | nil => rfl
  | cons h hs =>
      have hfree : ∀ e ∈ (h :: hs).map written, ',' ∉ e := by
        intro e he
        obtain ⟨k, hk, rfl⟩ := List.mem_map.1 he
        exact (hplain k hk).comma_not_mem_written
      have hspoken : ((h :: hs).map written).filter (fun e => ¬ AllBlank e) =
          (h :: hs).map written := by
        refine List.filter_eq_self.2 fun e he => ?_
        obtain ⟨k, hk, rfl⟩ := List.mem_map.1 he
        simpa using (hplain k hk).states.not_allBlank
      rw [parse_eq, toList_write, List.splitOn_intercalate _ hfree (List.cons_ne_nil _ _),
        entries_eq_ok_iff, hspoken, List.forall₂_map_left_iff, List.forall₂_same]
      exact fun k hk => (hplain k hk).states

/-! ### The grammar -/

/-- **The grammar of header lists.**  The headers of a text are those that its entries state that
are not blank, and it has any exactly if each of these has a name before its first equals sign; a
comma puts two texts after one another; and plain headers are read back from their text. -/
theorem parse_grammar :
    (∀ s hs, parse s = .ok hs ↔ List.Forall₂ States (spoken s) hs) ∧
    (∀ s, (∃ hs, parse s = .ok hs) ↔
      ∀ e ∈ spoken s, ∃ name value, e = name ++ '=' :: value ∧ '=' ∉ name ∧ ¬ AllBlank name) ∧
    (∀ a b, parse (a ++ "," ++ b) = do
      let hs ← parse a
      let ks ← parse b
      return hs ++ ks) ∧
    ∀ hs, (∀ h ∈ hs, Plain h) → parse (write hs) = .ok hs :=
  ⟨fun _ _ => parse_eq_ok_iff, exists_parse_eq_ok_iff, parse_append,
    fun _ => parse_write_of_plain⟩

/-- Two headers, the value of one of which has equals signs and blanks inside. -/
def twoHeaders : List (String × String) :=
  [("x-tenant", "dev"), ("authorization", "Basic dXNlcjpwYXNz==")]

theorem parse_grammar_twoHeaders :
    (∀ h ∈ twoHeaders, Plain h) ∧
      parse "x-tenant=dev,authorization=Basic dXNlcjpwYXNz==" = .ok twoHeaders := by
  have hplain : ∀ h ∈ twoHeaders, Plain h := by
    intro h hh
    simp only [twoHeaders, List.mem_cons, List.not_mem_nil, or_false] at hh
    rcases hh with rfl | rfl <;>
      exact ⟨by decide, by decide, by decide, by decide, by decide, by decide⟩
  exact ⟨hplain, parse_grammar.2.2.2 twoHeaders hplain⟩

end HeaderList

end SpanIntake

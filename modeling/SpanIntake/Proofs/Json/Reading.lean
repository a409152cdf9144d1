/-
**What is written in JSON is read back.**

A character of a string is written as itself or as an escape, and neither looks like the quote that
ends the string; every escape here is a character by itself, without a partner.  A list or an
object is written without blanks, and its items begin with no bracket.  So a value is read back from
its text, whatever follows, if its numerals are well-formed and its strings are texts.

Main definitions:

* `Json.WellFormed` — numerals are well-formed, strings and names are texts;
* `Json.ReadsBack` — a value is read back from its characters, whatever follows.

Main results:

* `Json.string?_text` — a text is read back;
* `Json.WellFormed.readsBack` — **a well-formed value is read back**;
* `Json.read?_write` — the same for a whole text;
* `Json.WellFormed.printable` — the text of a value has no control characters.
-/

import SpanIntake.Proofs.Json.Numeral

set_option relaxedAutoImplicit false
set_option autoImplicit false

namespace SpanIntake.Json

/-! ### Strings -/

/-- A piece that stands for a character by itself. -/
inductive Stands : Piece → Char → Prop
  | char (c : Char) : Stands (.inl c) c
  | unit (c : Char) (h : c.toNat < 0xD800) : Stands (.inr c.toNat) c

theorem Stands.join?_cons {p : Piece} {c : Char} {ps : List Piece} {cs : List Char}
    (h : Stands p c) (hps : join? ps = some cs) : join? (p :: ps) = some (c :: cs) := by
  cases h with
  | char => rw [join?, hps, Option.map_some]
  | unit _ hc =>
      have hlow : ¬ (0xD800 ≤ c.toNat ∧ c.toNat < 0xDC00) := by omega
      have hhigh : ¬ (0xDC00 ≤ c.toNat ∧ c.toNat < 0xE000) := by omega
      have hall : ¬ (0xD800 ≤ c.toNat ∧ c.toNat < 0xE000) := by omega
      cases ps with
      | nil => rw [join?, if_neg hall, hps, Option.map_some, Char.ofNat_toNat]; nofun
      | cons q ps =>
          cases q with
          | inl d => rw [join?, if_neg hall, hps, Option.map_some, Char.ofNat_toNat]; nofun
          | inr v => rw [join?, if_neg hlow, if_neg hhigh, hps, Option.map_some, Char.ofNat_toNat]

variable {more : Nat} {cs rest : List Char} {ps : List Piece}

theorem pieces?_letter {c d : Char} (hletter : letterEscape? d = some c) (hu : d ≠ 'u')
    (h : pieces? more cs = some (ps, rest)) :
    pieces? (more + 1) ('\\' :: d :: cs) = some (.inl c :: ps, rest) := by
  rw [pieces?, hletter]
  · simp only [h, Option.bind_eq_bind, Option.bind_some]
    rfl
  · exact hu

theorem hex4?_control {n : Nat} (hn : n < 32) :
    hex4? ('0' :: '0' :: Hex.digit (n / 16) :: Hex.digit (n % 16) :: cs) = some (n, cs) := by
  have hhigh : Hex.digitValue? (Hex.digit (n / 16)) = some (n / 16) :=
    Hex.digitValue?_digit (by omega)
  have hlow : Hex.digitValue? (Hex.digit (n % 16)) = some (n % 16) :=
    Hex.digitValue?_digit (Nat.mod_lt _ (by decide))
  have hzero : Hex.digitValue? '0' = some 0 := rfl
  have hvalue : ((0 * 16 + 0) * 16 + n / 16) * 16 + n % 16 = n := by omega
  simp only [hex4?, hzero, hhigh, hlow, hvalue, Option.bind_eq_bind, Option.bind_some]
  rfl

theorem pieces?_control {n : Nat} (hn : n < 32) (h : pieces? more cs = some (ps, rest)) :
    pieces? (more + 1) ('\\' :: 'u' :: '0' :: '0' :: Hex.digit (n / 16) :: Hex.digit (n % 16) :: cs)
      = some (.inr n :: ps, rest) := by
  simp only [pieces?, hex4?_control hn, h, Option.bind_eq_bind, Option.bind_some]
  rfl

theorem pieces?_plain {c : Char} (hquote : c ≠ '"') (hbackslash : c ≠ '\\') (hc : 32 ≤ c.toNat)
    (h : pieces? more cs = some (ps, rest)) :
    pieces? (more + 1) (c :: cs) = some (.inl c :: ps, rest) := by
  have hok : ¬ (c.toNat < 32 ∨ c = '\\') := by
    rintro (hlt | heq)
    · omega
    · exact hbackslash heq
  rw [pieces?, if_neg hok]
  · simp only [h, Option.bind_eq_bind, Option.bind_some]
    rfl
  · exact hquote
  · exact fun _ heq _ => hbackslash heq
  · exact fun _ _ heq _ => hbackslash heq

/-- A character as it is written is one piece. -/
theorem pieces?_escapeChar (c : Char) (h : pieces? more cs = some (ps, rest)) :
    ∃ p, Stands p c ∧ pieces? (more + 1) (escapeChar c ++ cs) = some (p :: ps, rest) := by
  have hletter : ∀ d, letterEscape? d = some c → d ≠ 'u' →
      ∃ p, Stands p c ∧ pieces? (more + 1) ('\\' :: d :: cs) = some (p :: ps, rest) :=
    fun d hd hu => ⟨.inl c, .char c, pieces?_letter hd hu h⟩
  have hnat : ∀ n, c.toNat = n → Char.ofNat n = c := by
    rintro n rfl
    exact Char.ofNat_toNat c
  unfold escapeChar
  split
  case isTrue heq => exact hletter '"' (by rw [heq]; rfl) (by decide)
  case isFalse hquote =>
  split
  case isTrue heq => exact hletter '\\' (by rw [heq]; rfl) (by decide)
  case isFalse hbackslash =>
  split
  case isTrue heq => exact hletter 'n' (by rw [heq]; rfl) (by decide)
  split
  case isTrue heq => exact hletter 'r' (by rw [heq]; rfl) (by decide)
  split
  case isTrue heq => exact hletter 't' (by rw [heq]; rfl) (by decide)
  split
  case isTrue heq => exact hletter 'b' (by rw [← hnat 8 heq]; rfl) (by decide)
  split
  case isTrue heq => exact hletter 'f' (by rw [← hnat 12 heq]; rfl) (by decide)
  split
  case isTrue hlt => exact ⟨.inr c.toNat, .unit c (by omega), pieces?_control hlt h⟩
  case isFalse hge =>
    exact ⟨.inl c, .char c, pieces?_plain hquote hbackslash (Nat.not_lt.1 hge) h⟩

theorem length_escapeChar_pos (c : Char) : 0 < (escapeChar c).length := by
  unfold escapeChar
  repeat' split
  all_goals exact Nat.succ_pos _

theorem length_le_flatMap_escapeChar (s : List Char) :
    s.length ≤ (s.flatMap escapeChar).length := by
  induction s with
  | nil => exact Nat.le_refl _
  | cons c s ih =>
      have hc := length_escapeChar_pos c
      rw [List.flatMap_cons, List.length_append, List.length_cons]
      omega

theorem pieces?_flatMap_escapeChar (s rest : List Char) :
    ∀ more, s.length < more → ∃ ps, join? ps = some s ∧
      pieces? more (s.flatMap escapeChar ++ '"' :: rest) = some (ps, rest) := by
  induction s with
  | nil =>
      rintro (_ | more) hmore
      · exact absurd hmore (Nat.lt_irrefl _)
      · exact ⟨[], rfl, rfl⟩
  | cons c s ih =>
      rintro (_ | more) hmore
      · exact absurd hmore (Nat.not_lt_zero _)
      · obtain ⟨ps, hjoin, hps⟩ := ih more (Nat.lt_of_succ_lt_succ hmore)
        obtain ⟨p, hp, hread⟩ := pieces?_escapeChar c hps
        refine ⟨p :: ps, hp.join?_cons hjoin, ?_⟩
        rw [List.flatMap_cons, List.append_assoc, hread]

/-- **A text is read back**, its opening quote being read already. -/
theorem string?_text (s : String) (rest : List Char) :
    string? (s.toList.flatMap escapeChar ++ '"' :: rest) = some (some s, rest) := by
  have hlength := length_le_flatMap_escapeChar s.toList
  obtain ⟨ps, hjoin, hps⟩ := pieces?_flatMap_escapeChar s.toList rest
    ((s.toList.flatMap escapeChar ++ '"' :: rest).length + 1) (by
      rw [List.length_append]
      omega)
  simp only [string?, hps, hjoin, Option.bind_eq_bind, Option.bind_some, Option.map_some,
    String.ofList_toList]
  rfl

/-! ### Well-formed values -/

/-- The numerals of a value are well-formed, and its strings and names are texts. -/
inductive WellFormed : Json → Prop
  | null : WellFormed .null
  | bool (b : Bool) : WellFormed (.bool b)
  | number {n : NumberText} (h : n.WellFormed) : WellFormed (.number n)
  | text (s : String) : WellFormed (.ofText s)
  | list {items : List Json} (h : ∀ v ∈ items, WellFormed v) : WellFormed (.list items)
  | object {fields : List (String × Json)} (h : ∀ f ∈ fields, WellFormed f.2) :
      WellFormed (.ofFields fields)

theorem isBlank_of_isDigit {c : Char} (h : c.isDigit = true) : isBlank c = false := by
  have hne : ∀ d : Char, d.isDigit = false → c ≠ d := by
    rintro d hd rfl
    rw [h] at hd
    cases hd
  simp only [isBlank, Bool.or_eq_false_iff, beq_eq_false_iff_ne]
  exact ⟨⟨⟨hne _ rfl, hne _ rfl⟩, hne _ rfl⟩, hne _ rfl⟩

/-- A value begins with no blank and no closing bracket. -/
theorem WellFormed.exists_chars_eq_cons {v : Json} (h : v.WellFormed) :
    ∃ c cs, v.chars = c :: cs ∧ isBlank c = false ∧ c ≠ ']' := by
  cases h with
  | null => exact ⟨'n', "ull".toList, rfl, rfl, by decide⟩
  | bool b =>
      cases b with
      | true => exact ⟨'t', "rue".toList, rfl, rfl, by decide⟩
      | false => exact ⟨'f', "alse".toList, rfl, rfl, by decide⟩
  | number h =>
      obtain ⟨c, cs, hcs, rfl | hc⟩ := h.exists_chars_eq_cons
      · exact ⟨'-', cs, hcs, rfl, by decide⟩
      · refine ⟨c, cs, hcs, isBlank_of_isDigit hc, ?_⟩
        rintro rfl
        exact absurd hc (by decide)
  | text s => exact ⟨'"', _, rfl, rfl, by decide⟩
  | list _ => exact ⟨'[', _, rfl, rfl, by decide⟩
  | object _ => exact ⟨'\x7b', _, rfl, rfl, by decide⟩

/-! ### Values -/

/-- Whatever follows, a value is read back from its characters.  Reading takes no more than two
steps for each of them, one to come to an item and one to read it. -/
def ReadsBack (v : Json) : Prop :=
  ∀ rest, Ends rest → ∀ more, 2 * v.chars.length ≤ more →
    value? (more + 1) (v.chars ++ rest) = some (v, rest)

theorem skipBlanks_cons {c : Char} (h : isBlank c = false) (cs : List Char) :
    skipBlanks (c :: cs) = c :: cs :=
  List.dropWhile_cons_of_neg (Bool.eq_false_iff.1 h)

theorem readsBack_null : ReadsBack .null := fun _ _ _ _ => rfl

theorem readsBack_bool (b : Bool) : ReadsBack (.bool b) := by
  cases b <;> exact fun _ _ _ _ => rfl

theorem readsBack_text (s : String) : ReadsBack (.ofText s) := by
  intro rest _ more _
  have hchars : (ofText s).chars ++ rest = '"' :: (s.toList.flatMap escapeChar ++ '"' :: rest) := by
    simp only [ofText, chars, textChars, Option.getD_some, List.cons_append, List.append_assoc,
      List.nil_append]
  rw [hchars, value?, skipBlanks_cons rfl]
  simp only [string?_text, Option.bind_eq_bind, Option.bind_some]
  rfl

/-- A numeral begins with no letter, quote or bracket, so that the reader comes to numerals. -/
theorem readsBack_number {n : NumberText} (h : n.WellFormed) : ReadsBack (.number n) := by
  intro rest hrest more _
  obtain ⟨c, cs, hcs, hc⟩ := h.exists_chars_eq_cons
  have hread := numeral?_chars h hrest
  have hblank : isBlank c = false := by
    rcases hc with rfl | hc
    · rfl
    · exact isBlank_of_isDigit hc
  have hne : ∀ d : Char, d ≠ '-' → d.isDigit = false → c ≠ d := by
    rintro d hminus hd rfl
    rcases hc with hc | hc
    · exact hminus hc
    · rw [hd] at hc
      cases hc
  rw [hcs, List.cons_append] at hread
  rw [chars, hcs, List.cons_append, value?, skipBlanks_cons hblank]
  split
  case h_1 heq => exact absurd (List.cons.inj heq).1 (hne _ (by decide) rfl)
  case h_2 heq => exact absurd (List.cons.inj heq).1 (hne _ (by decide) rfl)
  case h_3 heq => exact absurd (List.cons.inj heq).1 (hne _ (by decide) rfl)
  case h_4 heq => exact absurd (List.cons.inj heq).1 (hne _ (by decide) rfl)
  case h_5 heq => exact absurd (List.cons.inj heq).1 (hne _ (by decide) rfl)
  case h_6 heq => exact absurd (List.cons.inj heq).1 (hne _ (by decide) rfl)
  case h_7 =>
    simp only [hread, Option.bind_eq_bind, Option.bind_some]
    rfl

/-! ### Lists and objects -/

/-- Nothing that closes or parts values could belong to a numeral. -/
theorem ends_separator {c : Char} (h : c = ',' ∨ c = ']' ∨ c = '\x7d') (cs : List Char) :
    Ends (c :: cs) := by
  rcases h with rfl | rfl | rfl <;> exact .cons (by decide) cs

theorem items?_itemChars (rest : List Char) {items : List Json} (hne : items ≠ [])
    (h : ∀ v ∈ items, v.ReadsBack) :
    ∀ more, 2 * (itemChars items).length + 1 ≤ more →
      items? (more + 1) (itemChars items ++ ']' :: rest) = some (items, rest) := by
  induction items with
  | nil => exact absurd rfl hne
  | cons v vs ih =>
      intro more hmore
      have hv := h v List.mem_cons_self
      -- what is left of the bound serves the item and, after it, the items that follow
      obtain ⟨more, rfl⟩ : ∃ k, more = k + 1 := ⟨more - 1, by omega⟩
      cases vs with
      | nil =>
          have hread := hv (']' :: rest) (ends_separator (by decide) rest) more (by
            rw [itemChars] at hmore
            omega)
          rw [items?, itemChars]
          simp only [hread, Option.bind_eq_bind, Option.bind_some]
          rfl
      | cons w vs =>
          rw [itemChars, List.length_append, List.length_cons] at hmore
          have hread := hv (',' :: (itemChars (w :: vs) ++ ']' :: rest))
            (ends_separator (by decide) _) more (by omega)
          have hmore := ih (List.cons_ne_nil w vs) (fun u hu => h u (List.mem_cons_of_mem v hu))
            more (by omega)
          rw [items?, itemChars, List.append_assoc, List.cons_append]
          simp only [hread, Option.bind_eq_bind, Option.bind_some,
            skipBlanks_cons (show isBlank ',' = false from rfl), hmore]
          rfl

theorem readsBack_list {items : List Json} (hwf : ∀ v ∈ items, v.WellFormed)
    (h : ∀ v ∈ items, v.ReadsBack) : ReadsBack (.list items) := by
  intro rest _ more hmore
  have hchars : (list items).chars ++ rest = '[' :: (itemChars items ++ ']' :: rest) := by
    simp only [chars, List.cons_append, List.append_assoc, List.nil_append]
  rw [hchars, value?, skipBlanks_cons rfl]
  cases items with
  | nil => rfl
  | cons v vs =>
      obtain ⟨c, cs, hcs, hblank, hbracket⟩ := (hwf v List.mem_cons_self).exists_chars_eq_cons
      have hhead : ∃ ds, itemChars (v :: vs) ++ ']' :: rest = c :: ds := by
        cases vs with
        | nil => exact ⟨_, by rw [itemChars, hcs]; rfl⟩
        | cons w vs => exact ⟨_, by rw [itemChars, hcs]; rfl⟩
      obtain ⟨ds, hds⟩ := hhead
      obtain ⟨more, rfl⟩ : ∃ k, more = k + 1 := ⟨more - 1, by
        rw [chars, List.length_cons] at hmore
        omega⟩
      have hread := items?_itemChars rest (List.cons_ne_nil v vs) h more (by
        rw [chars, List.length_cons, List.length_append] at hmore
        omega)
      rw [hds] at hread ⊢
      simp only [skipBlanks_cons hblank]
      split
      case h_1 heq => exact absurd (List.cons.inj heq).1 hbracket
      case h_2 =>
        simp only [hread, Option.bind_eq_bind, Option.bind_some]
        rfl

/-- Fields whose names are texts. -/
def named (fields : List (String × Json)) : List (Option String × Json) :=
  fields.map fun (name, value) => (some name, value)

theorem fieldChars_singleton (name : String) (v : Json) :
    fieldChars (named [(name, v)]) =
      '"' :: (name.toList.flatMap escapeChar ++ '"' :: ':' :: v.chars) := by
  simp only [named, List.map_cons, List.map_nil, fieldChars, textChars, Option.getD_some,
    List.cons_append, List.append_assoc, List.nil_append]

theorem fieldChars_cons_cons (name : String) (v : Json) (g : String × Json)
    (fs : List (String × Json)) :
    fieldChars (named ((name, v) :: g :: fs)) =
      '"' :: (name.toList.flatMap escapeChar ++
        '"' :: ':' :: (v.chars ++ ',' :: fieldChars (named (g :: fs)))) := by
  simp only [named, List.map_cons, fieldChars, textChars, Option.getD_some, List.cons_append,
    List.append_assoc, List.nil_append]

theorem fields?_fieldChars (rest : List Char) {fields : List (String × Json)} (hne : fields ≠ [])
    (h : ∀ f ∈ fields, f.2.ReadsBack) :
    ∀ more, 2 * (fieldChars (named fields)).length + 1 ≤ more →
      fields? (more + 1) (fieldChars (named fields) ++ '\x7d' :: rest) =
        some (named fields, rest) := by
  have hquote : ∀ cs, skipBlanks ('"' :: cs) = '"' :: cs := skipBlanks_cons rfl
  have hcolon : ∀ cs, skipBlanks (':' :: cs) = ':' :: cs := skipBlanks_cons rfl
  have hcomma : ∀ cs, skipBlanks (',' :: cs) = ',' :: cs := skipBlanks_cons rfl
  induction fields with
  | nil => exact absurd rfl hne
  | cons f fs ih =>
      intro more hmore
      obtain ⟨name, v⟩ := f
      have hv : v.ReadsBack := h (name, v) List.mem_cons_self
      obtain ⟨more, rfl⟩ : ∃ k, more = k + 1 := ⟨more - 1, by omega⟩
      cases fs with
      | nil =>
          rw [fieldChars_singleton] at hmore ⊢
          simp only [List.length_cons, List.length_append] at hmore
          have hread := hv ('\x7d' :: rest) (ends_separator (by decide) rest) more (by omega)
          rw [fields?]
          simp only [List.cons_append, List.append_assoc, hquote, string?_text, hcolon, hread,
            Option.bind_eq_bind, Option.bind_some]
          rfl
      | cons g fs =>
          rw [fieldChars_cons_cons] at hmore ⊢
          simp only [List.length_cons, List.length_append] at hmore
          have hread := hv (',' :: (fieldChars (named (g :: fs)) ++ '\x7d' :: rest))
            (ends_separator (by decide) _) more (by omega)
          have hmore := ih (List.cons_ne_nil g fs) (fun f hf => h f (List.mem_cons_of_mem _ hf))
            more (by omega)
          rw [fields?]
          simp only [List.cons_append, List.append_assoc, hquote, string?_text, hcolon, hread,
            hcomma, hmore, Option.bind_eq_bind, Option.bind_some]
          rfl

theorem readsBack_ofFields {fields : List (String × Json)} (h : ∀ f ∈ fields, f.2.ReadsBack) :
    ReadsBack (.ofFields fields) := by
  intro rest _ more hmore
  have hchars : (ofFields fields).chars ++ rest =
      '\x7b' :: (fieldChars (named fields) ++ '\x7d' :: rest) := by
    simp only [ofFields, chars, named, List.cons_append, List.append_assoc, List.nil_append]
  have hlength : (ofFields fields).chars.length = (fieldChars (named fields)).length + 2 := by
    simp only [ofFields, chars, named, List.length_cons, List.length_append, List.length_nil]
  rw [hchars, value?, skipBlanks_cons rfl]
  cases fields with
  | nil => rfl
  | cons f fs =>
      obtain ⟨cs, hcs⟩ : ∃ cs, fieldChars (named (f :: fs)) ++ '\x7d' :: rest = '"' :: cs := by
        cases fs with
        | nil => exact ⟨_, by rw [fieldChars_singleton]; rfl⟩
        | cons g fs => exact ⟨_, by rw [fieldChars_cons_cons]; rfl⟩
      obtain ⟨more, rfl⟩ : ∃ k, more = k + 1 := ⟨more - 1, by omega⟩
      have hread := fields?_fieldChars rest (List.cons_ne_nil f fs) h more (by omega)
      rw [hcs] at hread ⊢
      simp only [skipBlanks_cons (show isBlank '"' = false from rfl)]
      split
      case h_1 heq => exact absurd (List.cons.inj heq).1 (by decide)
      case h_2 =>
        simp only [hread, Option.bind_eq_bind, Option.bind_some]
        rfl

/-- **A well-formed value is read back from its characters**, whatever follows. -/
theorem WellFormed.readsBack {v : Json} (h : v.WellFormed) : v.ReadsBack := by
  induction h with
  | null => exact readsBack_null
  | bool b => exact readsBack_bool b
  | number h => exact readsBack_number h
  | text s => exact readsBack_text s
  | list hwf ih => exact readsBack_list hwf ih
  | object _ ih => exact readsBack_ofFields ih

/-- **A well-formed value is read back from its text.** -/
theorem read?_write {v : Json} (h : v.WellFormed) : read? v.write = some v := by
  have hread := h.readsBack [] .nil (2 * v.chars.length + 1) (by omega)
  rw [List.append_nil] at hread
  simp only [read?, write, String.toList_ofList, hread, Option.bind_eq_bind, Option.bind_some]
  rfl

/-! ### Control characters -/

/-- No character is a control character. -/
def Printable (cs : List Char) : Prop := ∀ c ∈ cs, 32 ≤ c.toNat

instance (cs : List Char) : Decidable (Printable cs) :=
  List.decidableBAll (fun c : Char => 32 ≤ c.toNat) cs

theorem Printable.nil : Printable [] := List.forall_mem_nil _

theorem Printable.append {cs ds : List Char} (hcs : Printable cs) (hds : Printable ds) :
    Printable (cs ++ ds) := by
  intro c hc
  rcases List.mem_append.1 hc with hc | hc
  · exact hcs c hc
  · exact hds c hc

theorem Printable.cons {c : Char} {cs : List Char} (hc : 32 ≤ c.toNat) (hcs : Printable cs) :
    Printable (c :: cs) :=
  List.forall_mem_cons.2 ⟨hc, hcs⟩

theorem printable_of_isDigit {ds : List Char} (h : ∀ c ∈ ds, c.isDigit = true) : Printable ds := by
  intro c hc
  have hdigit := Char.isDigit_iff_toNat.1 (h c hc)
  have hzero : '0'.toNat = 48 := rfl
  omega

theorem printable_escapeChar (c : Char) : Printable (escapeChar c) := by
  have hdigit : ∀ n : Fin 16, 32 ≤ (Hex.digit n.val).toNat := by decide
  unfold escapeChar
  iterate 7
    split
    · decide
  split
  case isTrue hlt =>
    have hhigh := hdigit ⟨c.toNat / 16, by omega⟩
    have hlow := hdigit ⟨c.toNat % 16, by omega⟩
    exact .append (by decide : Printable ['\\', 'u', '0', '0']) (.cons hhigh (.cons hlow .nil))
  case isFalse hge => exact .cons (Nat.not_lt.1 hge) .nil

theorem printable_textChars (s : String) : Printable (textChars s) := by
  have hbody : Printable (s.toList.flatMap escapeChar) := by
    intro c hc
    obtain ⟨d, _, hd⟩ := List.mem_flatMap.1 hc
    exact printable_escapeChar d c hd
  exact .cons (by decide) (hbody.append (by decide))

theorem NumberText.WellFormed.printable {n : NumberText} (h : n.WellFormed) :
    Printable n.chars := by
  rw [n.chars_eq]
  refine .append ?_ (.append (printable_of_isDigit h.whole) (.append ?_ ?_))
  · split <;> decide
  · rw [NumberText.fractionChars]
    split
    · exact .nil
    · exact .cons (by decide) (printable_of_isDigit h.fraction)
  · rw [NumberText.powerChars]
    split
    case h_1 => exact .nil
    case h_2 sign digits hpower =>
      obtain ⟨hsign, _, hdigits⟩ := h.power _ hpower
      refine .cons (by decide) (.append ?_ (printable_of_isDigit hdigits))
      dsimp only at hsign
      rcases hsign with rfl | rfl | rfl <;> decide

theorem printable_itemChars {items : List Json} (h : ∀ v ∈ items, Printable v.chars) :
    Printable (itemChars items) := by
  induction items with
  | nil => exact .nil
  | cons v vs ih =>
      obtain ⟨hv, hvs⟩ := List.forall_mem_cons.1 h
      cases vs with
      | nil => exact hv
      | cons w vs => exact hv.append (.cons (by decide) (ih hvs))

theorem printable_fieldChars {fields : List (String × Json)}
    (h : ∀ f ∈ fields, Printable f.2.chars) : Printable (fieldChars (named fields)) := by
  induction fields with
  | nil => exact .nil
  | cons f fs ih =>
      obtain ⟨hf, hfs⟩ := List.forall_mem_cons.1 h
      cases fs with
      | nil => exact (printable_textChars f.1).append (.cons (by decide) hf)
      | cons g fs =>
          exact (printable_textChars f.1).append
            (.cons (by decide) (hf.append (.cons (by decide) (ih hfs))))

/-- **The text of a value has no control characters**, so that it stands on one line. -/
theorem WellFormed.printable {v : Json} (h : v.WellFormed) : Printable v.chars := by
  induction h with
  | null => decide
  | bool b => cases b <;> decide
  | number h => exact h.printable
  | text s => exact printable_textChars s
  | list _ ih => exact .cons (by decide) ((printable_itemChars ih).append (by decide))
  | object _ ih => exact .cons (by decide) ((printable_fieldChars ih).append (by decide))

end SpanIntake.Json

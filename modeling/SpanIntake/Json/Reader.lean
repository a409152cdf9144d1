/-
**Reading JSON text.**

The reader follows the grammar of JSON: blanks are space, tab, newline and carriage return;
numerals have no leading zeros; strings hold no raw control characters; nothing may follow the
value but blanks.  Any text outside the grammar is refused as a whole.

Main definitions

* `Json.read?` — the value of a text.
-/

import SpanIntake.Json.Value

set_option relaxedAutoImplicit false
set_option autoImplicit false

namespace SpanIntake.Json

/-! ### Blanks and digits -/

/-- Whether a character is a blank between tokens. -/
def isBlank (c : Char) : Bool := c == ' ' || c == '\n' || c == '\t' || c == '\r'

/-- The text behind leading blanks. -/
def skipBlanks (cs : List Char) : List Char := cs.dropWhile isBlank

/-- Leading decimal digits and the rest. -/
def spanDigits (cs : List Char) : List Char × List Char :=
  (cs.takeWhile Char.isDigit, cs.dropWhile Char.isDigit)

/-! ### Numerals -/

/-- The digits before the point: a lone zero, or digits that do not begin with one. -/
def whole? (cs : List Char) : Option (List Char × List Char) :=
  match spanDigits cs with
  | ([], _) => none
  | ('0' :: _ :: _, _) => none
  | r => some r

/-- A point with digits behind it; no digits where there is no point. -/
def fraction? : List Char → Option (List Char × List Char)
  | '.' :: rest =>
    match spanDigits rest with
    | ([], _) => none
    | r => some r
  | cs => some ([], cs)

/-- The digits of an exponent, behind its sign. -/
def powerDigits? (sign : Option Char) (cs : List Char) :
    Option (Option (Option Char × List Char) × List Char) :=
  match spanDigits cs with
  | ([], _) => none
  | (ds, rest) => some (some (sign, ds), rest)

/-- An exponent, if one stands there. -/
def power? : List Char → Option (Option (Option Char × List Char) × List Char)
  | c :: rest =>
    if c = 'e' ∨ c = 'E' then
      match rest with
      | '+' :: more => powerDigits? (some '+') more
      | '-' :: more => powerDigits? (some '-') more
      | _ => powerDigits? none rest
    else some (none, c :: rest)
  | [] => some (none, [])

/-- A numeral, behind its sign. -/
def unsigned? (negative : Bool) (cs : List Char) : Option (NumberText × List Char) := do
  let (whole, cs) ← whole? cs
  let (fraction, cs) ← fraction? cs
  let (power, cs) ← power? cs
  pure (⟨negative, whole, fraction, power⟩, cs)

/-- A numeral. -/
def numeral? : List Char → Option (NumberText × List Char)
  | '-' :: rest => unsigned? true rest
  | cs => unsigned? false cs

/-! ### Strings -/

/-- The number of four hexadecimal digits. -/
def hex4? : List Char → Option (Nat × List Char)
  | a :: b :: c :: d :: rest => do
    let a ← Hex.digitValue? a
    let b ← Hex.digitValue? b
    let c ← Hex.digitValue? c
    let d ← Hex.digitValue? d
    pure (((a * 16 + b) * 16 + c) * 16 + d, rest)
  | _ => none

/-- The character of a one-letter escape. -/
def letterEscape? (c : Char) : Option Char :=
  if c = '"' ∨ c = '\\' ∨ c = '/' then some c
  else if c = 'b' then some (Char.ofNat 8)
  else if c = 'f' then some (Char.ofNat 12)
  else if c = 'n' then some '\n'
  else if c = 'r' then some '\r'
  else if c = 't' then some '\t'
  else none

/-- A piece of a string: a character, or a code unit from an escape. -/
abbrev Piece := Char ⊕ Nat

/-- The pieces of a string up to its closing quote, and the rest.  At most as many pieces are read
as the first argument says. -/
def pieces? : Nat → List Char → Option (List Piece × List Char)
  | 0, _ => none
  | _ + 1, [] => none
  | _ + 1, '"' :: rest => some ([], rest)
  | more + 1, '\\' :: 'u' :: rest => do
    let (unit, rest) ← hex4? rest
    let (ps, rest) ← pieces? more rest
    pure (.inr unit :: ps, rest)
  | more + 1, '\\' :: c :: rest => do
    let c ← letterEscape? c
    let (ps, rest) ← pieces? more rest
    pure (.inl c :: ps, rest)
  | more + 1, c :: rest =>
    if c.toNat < 32 ∨ c = '\\' then none
    else do
      let (ps, rest) ← pieces? more rest
      pure (.inl c :: ps, rest)

/-- The characters of pieces: a code unit outside the surrogates is a character, a high surrogate
needs a low one right behind it.  Nothing where a surrogate has no partner. -/
def join? : List Piece → Option (List Char)
  | [] => some []
  | .inl c :: rest => (join? rest).map (c :: ·)
  | .inr u :: .inr v :: rest =>
    if 0xD800 ≤ u ∧ u < 0xDC00 then
      if 0xDC00 ≤ v ∧ v < 0xE000 then
        (join? rest).map (Char.ofNat (0x10000 + (u - 0xD800) * 0x400 + (v - 0xDC00)) :: ·)
      else none
    else if 0xDC00 ≤ u ∧ u < 0xE000 then none
    else (join? (.inr v :: rest)).map (Char.ofNat u :: ·)
  | .inr u :: rest =>
    if 0xD800 ≤ u ∧ u < 0xE000 then none else (join? rest).map (Char.ofNat u :: ·)

/-- A string behind its opening quote: its text, if it has one, and the rest. -/
def string? (cs : List Char) : Option (Option String × List Char) := do
  let (ps, rest) ← pieces? (cs.length + 1) cs
  pure ((join? ps).map String.ofList, rest)

/-! ### Values -/

/-- The rest behind a literal word. -/
def word? (word cs : List Char) : Option (List Char) :=
  if word.isPrefixOf cs then some (cs.drop word.length) else none

mutual

/-- A value and the rest.  Each reader spends one unit of its first argument per step; a text has
fewer steps than characters. -/
def value? : Nat → List Char → Option (Json × List Char)
  | 0, _ => none
  | more + 1, cs =>
    match skipBlanks cs with
    | 'n' :: rest => (word? "ull".toList rest).map (.null, ·)
    | 't' :: rest => (word? "rue".toList rest).map (.bool true, ·)
    | 'f' :: rest => (word? "alse".toList rest).map (.bool false, ·)
    | '"' :: rest => do
      let (s, rest) ← string? rest
      pure (.text s, rest)
    | '[' :: rest =>
      match skipBlanks rest with
      | ']' :: rest => some (.list [], rest)
      | rest => do
        let (vs, rest) ← items? more rest
        pure (.list vs, rest)
    | '{' :: rest =>
      match skipBlanks rest with
      | '}' :: rest => some (.object [], rest)
      | rest => do
        let (fs, rest) ← fields? more rest
        pure (.object fs, rest)
    | cs => do
      let (n, rest) ← numeral? cs
      pure (.number n, rest)

/-- One or more items up to the closing bracket. -/
def items? : Nat → List Char → Option (List Json × List Char)
  | 0, _ => none
  | more + 1, cs => do
    let (v, rest) ← value? more cs
    match skipBlanks rest with
    | ',' :: rest =>
      let (vs, rest) ← items? more rest
      pure (v :: vs, rest)
    | ']' :: rest => pure ([v], rest)
    | _ => none

/-- One or more fields up to the closing brace. -/
def fields? : Nat → List Char → Option (List (Option String × Json) × List Char)
  | 0, _ => none
  | more + 1, cs => do
    match skipBlanks cs with
    | '"' :: rest =>
      let (name, rest) ← string? rest
      match skipBlanks rest with
      | ':' :: rest =>
        let (v, rest) ← value? more rest
        match skipBlanks rest with
        | ',' :: rest =>
          let (fs, rest) ← fields? more rest
          pure ((name, v) :: fs, rest)
        | '}' :: rest => pure ([(name, v)], rest)
        | _ => none
      | _ => none
    | _ => none

end

/-- The value of a JSON text. -/
def read? (s : String) : Option Json := do
  let cs := s.toList
  let (v, rest) ← value? (2 * cs.length + 2) cs
  if (skipBlanks rest).isEmpty then some v else none

end SpanIntake.Json

/-
**Reading TOML.**

A document is a row of lines: blank ones, comments, a key with its value, the header of a table or
of a row of an array of tables.  Any text outside the grammar is refused as a whole.

Main definitions

* `Toml.read?` — the entries of a document.
-/

import SpanIntake.Bytes.Hex
import SpanIntake.Toml.Table

set_option relaxedAutoImplicit false
set_option autoImplicit false

namespace SpanIntake.Toml

/-! ### Blanks, comments, ends of lines -/

/-- Whether a character is a blank inside a line. -/
def isSpace (c : Char) : Bool := c == ' ' || c == '\t'

/-- The text behind leading blanks. -/
def skipSpace (cs : List Char) : List Char := cs.dropWhile isSpace

/-- Whether a character may stand for itself in a comment and in most strings: all but the controls
other than the tab. -/
def isPlain (c : Char) : Bool := c == '\t' || (32 ≤ c.toNat && c.toNat ≠ 127)

/-- The text behind the end of a line, if one stands first. -/
def endOfLine? : List Char → Option (List Char)
  | '\n' :: rest => some rest
  | '\r' :: '\n' :: rest => some rest
  | _ => none

/-- The text behind a comment, if one stands first. -/
def skipComment : List Char → List Char
  | '#' :: rest => rest.dropWhile isPlain
  | cs => cs

/-- The text behind blanks, a comment and the end of a line or of the document. -/
def closeLine? (cs : List Char) : Option (List Char) :=
  match skipComment (skipSpace cs) with
  | [] => some []
  | rest => endOfLine? rest

/-- The text behind blanks, comments and ends of lines; at most as many ends of lines are passed as
the first argument says. -/
def skipLines : Nat → List Char → List Char
  | 0, cs => skipSpace cs
  | more + 1, cs =>
    match endOfLine? (skipComment (skipSpace cs)) with
    | some rest => skipLines more rest
    | none => skipSpace cs

/-! ### Strings -/

/-- The character of a number that is one. -/
def scalar? (n : Nat) : Option Char := if h : n.isValidChar then some (Char.ofNatAux n h) else none

/-- The number of hexadecimal digits. -/
def hexNumber? (ds : List Char) : Option Nat :=
  ds.foldlM (fun n c => (Hex.digitValue? c).map (n * 16 + ·)) 0

/-- The character of an escape by number with so many digits, and the rest. -/
def numbered? (digits : Nat) (cs : List Char) : Option (Char × List Char) := do
  if cs.length < digits then none
  else return (← scalar? (← hexNumber? (cs.take digits)), cs.drop digits)

/-- The character of an escape behind its backslash, and the rest. -/
def escape? : List Char → Option (Char × List Char)
  | 'b' :: rest => some (Char.ofNat 8, rest)
  | 't' :: rest => some ('\t', rest)
  | 'n' :: rest => some ('\n', rest)
  | 'f' :: rest => some (Char.ofNat 12, rest)
  | 'r' :: rest => some ('\r', rest)
  | '"' :: rest => some ('"', rest)
  | '\\' :: rest => some ('\\', rest)
  | 'u' :: rest => numbered? 4 rest
  | 'U' :: rest => numbered? 8 rest
  | _ => none

/-- The text behind a backslash that ends a line: blanks and ends of lines are passed over. -/
def joinLines? (cs : List Char) : Option (List Char) := do
  let rest ← endOfLine? (skipSpace cs)
  return rest.dropWhile fun c => isSpace c || c == '\n' || c == '\r'

/-- A string on one line, behind its opening quote; `escapes` says whether a backslash means
something. -/
def line? (escapes : Bool) (quote : Char) : Nat → List Char → Option (List Char × List Char)
  | 0, _ => none
  | _ + 1, [] => none
  | more + 1, c :: rest =>
    if c = quote then some ([], rest)
    else if escapes && c = '\\' then do
      let (d, rest) ← escape? rest
      let (ds, rest) ← line? escapes quote more rest
      return (d :: ds, rest)
    else if isPlain c then do
      let (ds, rest) ← line? escapes quote more rest
      return (c :: ds, rest)
    else none

/-- A string on several lines, behind its opening quotes.  Three quotes close it, and up to two more
right before them belong to it. -/
def lines? (escapes : Bool) (quote : Char) : Nat → List Char → Option (List Char × List Char)
  | 0, _ => none
  | _ + 1, [] => none
  | more + 1, c :: rest =>
    if c = quote then
      let run := ((c :: rest).take 5).takeWhile (· = quote)
      if 3 ≤ run.length then some (run.drop 3, (c :: rest).drop run.length)
      else do
        let (ds, rest) ← lines? escapes quote more rest
        return (c :: ds, rest)
    else if escapes && c = '\\' then
      match joinLines? rest with
      | some rest => lines? escapes quote more rest
      | none => do
        let (d, rest) ← escape? rest
        let (ds, rest) ← lines? escapes quote more rest
        return (d :: ds, rest)
    else
      match endOfLine? (c :: rest) with
      | some rest => do
        let (ds, rest) ← lines? escapes quote more rest
        return ('\n' :: ds, rest)
      | none =>
        if isPlain c then do
          let (ds, rest) ← lines? escapes quote more rest
          return (c :: ds, rest)
        else none

/-- A string behind its first quote. -/
def string? (quote : Char) (cs : List Char) : Option (String × List Char) := do
  let escapes := quote == '"'
  let (ds, rest) ←
    match cs with
    | a :: b :: rest =>
      if a = quote ∧ b = quote then
        lines? escapes quote (rest.length + 1) ((endOfLine? rest).getD rest)
      else line? escapes quote (cs.length + 1) cs
    | _ => line? escapes quote (cs.length + 1) cs
  return (String.ofList ds, rest)

/-! ### Keys -/

/-- Whether a character may stand in a key without quotes. -/
def isBare (c : Char) : Bool := c.isAlphanum || c == '_' || c == '-'

/-- One part of a key. -/
def keyPart? : List Char → Option (String × List Char)
  | '"' :: rest => do
    let (ds, rest) ← line? true '"' (rest.length + 1) rest
    return (String.ofList ds, rest)
  | '\'' :: rest => do
    let (ds, rest) ← line? false '\'' (rest.length + 1) rest
    return (String.ofList ds, rest)
  | cs =>
    match cs.takeWhile isBare with
    | [] => none
    | ds => some (String.ofList ds, cs.dropWhile isBare)

/-- A key, whose parts have points between them, and the text behind the blanks after it: all parts
but the last, and the last.  At most as many parts are read as the first argument says. -/
def key? : Nat → List Char → Option ((List String × String) × List Char)
  | 0, _ => none
  | more + 1, cs => do
    let (part, rest) ← keyPart? (skipSpace cs)
    match skipSpace rest with
    | '.' :: rest =>
      let ((path, last), rest) ← key? more rest
      return ((part :: path, last), rest)
    | rest => return (([], part), rest)

/-! ### Numbers -/

/-- Leading digits, with single underscores between them, and the rest; the underscores are left
out. -/
def digits (isDigit : Char → Bool) : List Char → List Char × List Char
  | '_' :: c :: rest =>
    if isDigit c then
      let (ds, rest) := digits isDigit rest
      (c :: ds, rest)
    else ([], '_' :: c :: rest)
  | c :: rest =>
    if isDigit c then
      let (ds, rest) := digits isDigit rest
      (c :: ds, rest)
    else ([], c :: rest)
  | [] => ([], [])

/-- One or more digits: the first is no underscore. -/
def digits? (isDigit : Char → Bool) : List Char → Option (List Char × List Char)
  | [] => none
  | c :: rest => if isDigit c then some (digits isDigit (c :: rest)) else none

/-- A sign, if one stands first. -/
def sign : List Char → List Char × List Char
  | '+' :: rest => (['+'], rest)
  | '-' :: rest => (['-'], rest)
  | cs => ([], cs)

/-- The digits of a whole number: a zero stands alone. -/
def whole? (cs : List Char) : Option (List Char × List Char) :=
  match cs with
  | '0' :: rest => some (['0'], rest)
  | _ => digits? Char.isDigit cs

/-- The number of digits in a base. -/
def number (base : Nat) (ds : List Char) : Nat :=
  ds.foldl (fun n c => n * base + (Hex.digitValue? c).getD 0) 0

/-- A whole number that fits a signed 64-bit word. -/
def word? (n : Int) : Option Value := if fitsInt64 n then some (.integer n) else none

/-- Whether a character is a digit below the given base. -/
def isDigitBelow (base : Nat) (c : Char) : Bool := (Hex.digitValue? c).any (· < base)

/-- A whole number behind the mark of its base. -/
def based? (base : Nat) (cs : List Char) : Option (Value × List Char) := do
  let (ds, rest) ← digits? (isDigitBelow base) cs
  return (← word? (number base ds), rest)

/-- An exponent, if one stands first. -/
def exponent? : List Char → Option (List Char × List Char)
  | e :: rest =>
    if e = 'e' ∨ e = 'E' then do
      let (s, rest) := sign rest
      let (ds, rest) ← digits? Char.isDigit rest
      return (e :: (s ++ ds), rest)
    else none
  | [] => none

/-- A number with a fraction, an exponent or both. -/
def float? (cs : List Char) : Option (Value × List Char) := do
  let (s, rest) := sign cs
  let (ds, rest) ← whole? rest
  match rest with
  | '.' :: rest =>
    let (fs, rest) ← digits? Char.isDigit rest
    let (es, rest) := (exponent? rest).getD ([], rest)
    return (.float (String.ofList (s ++ ds ++ '.' :: (fs ++ es))), rest)
  | rest =>
    let (es, rest) ← exponent? rest
    return (.float (String.ofList (s ++ ds ++ es)), rest)

/-- A word that stands for a number, behind its sign. -/
def special? (cs : List Char) : Option (Value × List Char) :=
  let (s, rest) := sign cs
  if "inf".toList.isPrefixOf rest || "nan".toList.isPrefixOf rest then
    some (.float (String.ofList (s ++ rest.take 3)), rest.drop 3)
  else none

/-- A whole number. -/
def integer? (cs : List Char) : Option (Value × List Char) :=
  match cs with
  | '0' :: 'x' :: rest => based? 16 rest
  | '0' :: 'o' :: rest => based? 8 rest
  | '0' :: 'b' :: rest => based? 2 rest
  | _ => do
    let (s, rest) := sign cs
    let (ds, rest) ← whole? rest
    let n : Int := number 10 ds
    return (← word? (if s = ['-'] then -n else n), rest)

/-! ### Moments -/

/-- A number of so many digits between bounds, and the rest. -/
def part? (size low high : Nat) (cs : List Char) : Option (Nat × List Char) :=
  let ds := cs.take size
  let n := number 10 ds
  if ds.length = size ∧ ds.all Char.isDigit ∧ low ≤ n ∧ n ≤ high then some (n, cs.drop size)
  else none

/-- The days of a month. -/
def daysIn (year month : Nat) : Nat :=
  if month = 2 then if year % 4 = 0 ∧ (year % 100 ≠ 0 ∨ year % 400 = 0) then 29 else 28
  else if month = 4 ∨ month = 6 ∨ month = 9 ∨ month = 11 then 30
  else 31

/-- The text behind a given character. -/
def mark? (c : Char) : List Char → Option (List Char)
  | d :: rest => if c = d then some rest else none
  | [] => none

/-- The text behind a date. -/
def date? (cs : List Char) : Option (List Char) := do
  let (year, cs) ← part? 4 0 9999 cs
  let (month, cs) ← part? 2 1 12 (← mark? '-' cs)
  let (_, cs) ← part? 2 1 (daysIn year month) (← mark? '-' cs)
  return cs

/-- The text behind a time of day. -/
def clock? (cs : List Char) : Option (List Char) := do
  let (_, cs) ← part? 2 0 23 cs
  let (_, cs) ← part? 2 0 59 (← mark? ':' cs)
  let (_, cs) ← part? 2 0 60 (← mark? ':' cs)
  match cs with
  | '.' :: c :: rest => if c.isDigit then return rest.dropWhile Char.isDigit else none
  | '.' :: [] => none
  | cs => return cs

/-- The text behind a distance from universal time, if one stands first. -/
def offset? (cs : List Char) : Option (List Char) :=
  match cs with
  | 'Z' :: rest => some rest
  | 'z' :: rest => some rest
  | c :: rest =>
    if c = '+' ∨ c = '-' then do
      let (_, rest) ← part? 2 0 23 rest
      let (_, rest) ← part? 2 0 59 (← mark? ':' rest)
      return rest
    else some (c :: rest)
  | [] => some []

/-- The text behind a date, a time of day, or both. -/
def moment? (cs : List Char) : Option (List Char) :=
  match date? cs with
  | none => clock? cs
  | some rest =>
    match rest with
    | c :: more =>
      if c = 'T' ∨ c = 't' then (clock? more).bind offset?
      else if c = ' ' then ((clock? more).bind offset?).or (some rest)
      else some rest
    | [] => some rest

/-! ### Values -/

/-- The truth value that a text begins with. -/
def boolean? (cs : List Char) : Option (Value × List Char) :=
  if "true".toList.isPrefixOf cs then some (.boolean true, cs.drop 4)
  else if "false".toList.isPrefixOf cs then some (.boolean false, cs.drop 5)
  else none

/-- A value that holds no others. -/
def scalarValue? (cs : List Char) : Option (Value × List Char) :=
  match cs with
  | '"' :: rest => (string? '"' rest).map fun r => (.text r.1, r.2)
  | '\'' :: rest => (string? '\'' rest).map fun r => (.text r.1, r.2)
  | _ =>
    match moment? cs with
    | some rest => some (.moment (String.ofList (cs.take (cs.length - rest.length))), rest)
    | none => (((float? cs).or (special? cs)).or (boolean? cs)).or (integer? cs)

mutual

/-- A value and the rest.  Each reader spends one unit of its first argument per step; a text has
fewer steps than characters. -/
def value? : Nat → List Char → Option (Value × List Char)
  | 0, _ => none
  | more + 1, '[' :: rest => do
    let (vs, rest) ← items? more (skipLines rest.length rest)
    return (.array vs, rest)
  | more + 1, '{' :: rest =>
    match skipSpace rest with
    | '}' :: rest => some (.table [], rest)
    | rest => do
      let (b, rest) ← entries? more (.empty .header) rest
      return (.table b.entries, rest)
  | _ + 1, cs => scalarValue? cs

/-- The items of an array up to its closing bracket; a comma may stand behind the last. -/
def items? : Nat → List Char → Option (List Value × List Char)
  | 0, _ => none
  | _ + 1, ']' :: rest => some ([], rest)
  | more + 1, cs => do
    let (v, rest) ← value? more cs
    match skipLines rest.length rest with
    | ',' :: rest =>
      let (vs, rest) ← items? more (skipLines rest.length rest)
      return (v :: vs, rest)
    | ']' :: rest => return ([v], rest)
    | _ => none

/-- The entries of a table on one line up to its closing brace, added to those before. -/
def entries? : Nat → Branch → List Char → Option (Branch × List Char)
  | 0, _, _ => none
  | more + 1, b, cs => do
    let ((path, last), rest) ← key? (cs.length + 1) cs
    let (v, rest) ← value? more (skipSpace (← mark? '=' rest))
    let b ← b.add? path last v
    match skipSpace rest with
    | ',' :: rest => entries? more b rest
    | '}' :: rest => return (b, rest)
    | _ => none

end

/-! ### Documents -/

/-- The tables of the lines read so far, and the place that the last header opened. -/
structure Draft where
  /-- All tables. -/
  root : Branch
  /-- The keys that lead to the open one. -/
  place : List String

/-- A draft after one line, and the rest. -/
def Draft.line? (d : Draft) (cs : List Char) : Option (Draft × List Char) :=
  match skipSpace cs with
  | '[' :: '[' :: rest => do
    let ((path, last), rest) ← key? (rest.length + 1) rest
    let rest ← closeLine? (← mark? ']' (← mark? ']' rest))
    return (⟨← d.root.openRow? path last, path ++ [last]⟩, rest)
  | '[' :: rest => do
    let ((path, last), rest) ← key? (rest.length + 1) rest
    let rest ← closeLine? (← mark? ']' rest)
    return (⟨← d.root.open? path last, path ++ [last]⟩, rest)
  | cs =>
    match closeLine? cs with
    | some rest => some (d, rest)
    | none => do
      let ((path, last), rest) ← key? (cs.length + 1) cs
      let rest := skipSpace (← mark? '=' rest)
      let (v, rest) ← value? (2 * rest.length + 2) rest
      let rest ← closeLine? rest
      return (⟨← d.root.assign? d.place path last v, d.place⟩, rest)

/-- A draft after all lines; at most as many as the first argument says. -/
def Draft.lines? : Nat → Draft → List Char → Option Draft
  | _, d, [] => some d
  | 0, _, _ => none
  | more + 1, d, cs => do
    let (d, rest) ← d.line? cs
    Draft.lines? more d rest

/-- The entries of a document; a byte order mark may stand first. -/
def read? (s : String) : Option (List (String × Value)) :=
  let cs :=
    match s.toList with
    | c :: cs => if c.toNat = 0xFEFF then cs else c :: cs
    | [] => []
  (Draft.lines? (cs.length + 1) ⟨.empty .header, []⟩ cs).map fun d => d.root.entries

end SpanIntake.Toml

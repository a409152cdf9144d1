/-
**JSON values and their compact text.**

Numbers keep their written form, and the fields of an object their order and their repetitions, so
that a value says all that its text says.  A string with an unpaired surrogate escape is
well-formed JSON but stands for no text; it is a value of its own.

Main definitions

* `Json` — a JSON value, `Json.NumberText` — a number as it is written;
* `Json.write` — the compact text of a value;
* `Json.writeText` — a string with its quotes and escapes.
-/

import SpanIntake.Bytes.Hex

set_option relaxedAutoImplicit false
set_option autoImplicit false

namespace SpanIntake

/-- A JSON number as it is written. -/
structure Json.NumberText where
  /-- Whether a minus sign stands in front. -/
  negative : Bool
  /-- The digits before the point. -/
  whole : List Char
  /-- The digits behind the point; none where there is no point. -/
  fraction : List Char
  /-- The exponent: its sign, if written, and its digits. -/
  power : Option (Option Char × List Char)
  deriving DecidableEq, Repr

/-- A JSON value. -/
inductive Json where
  /-- The literal `null`. -/
  | null
  /-- A truth value. -/
  | bool (b : Bool)
  /-- A number as it is written. -/
  | number (n : Json.NumberText)
  /-- A text; nothing where an escape leaves a surrogate without its partner. -/
  | text (s : Option String)
  /-- A list of values. -/
  | list (items : List Json)
  /-- The fields of an object in the order written; a name may be no text and may repeat. -/
  | object (fields : List (Option String × Json))

namespace Json

/-! ### Building -/

/-- The written form of an integer. -/
def ofInt (n : Int) : Json := .number ⟨n < 0, Nat.toDigits 10 n.natAbs, [], none⟩

/-- A text. -/
def ofText (s : String) : Json := .text (some s)

/-- An object with the given fields. -/
def ofFields (fields : List (String × Json)) : Json :=
  .object (fields.map fun (name, value) => (some name, value))

/-! ### Writing -/

/-- The characters of a number as it is written. -/
def NumberText.chars (n : NumberText) : List Char :=
  (if n.negative then ['-'] else []) ++ n.whole
    ++ (if n.fraction.isEmpty then [] else '.' :: n.fraction)
    ++ (match n.power with
        | none => []
        | some (sign, digits) => 'e' :: (sign.toList ++ digits))

/-- A character inside a string: quote, backslash and controls are escaped. -/
def escapeChar (c : Char) : List Char :=
  if c = '"' then ['\\', '"']
  else if c = '\\' then ['\\', '\\']
  else if c = '\n' then ['\\', 'n']
  else if c = '\r' then ['\\', 'r']
  else if c = '\t' then ['\\', 't']
  else if c.toNat = 8 then ['\\', 'b']
  else if c.toNat = 12 then ['\\', 'f']
  else if c.toNat < 32 then
    ['\\', 'u', '0', '0', Hex.digit (c.toNat / 16), Hex.digit (c.toNat % 16)]
  else [c]

/-- A string with its quotes and escapes, as characters. -/
def textChars (s : String) : List Char := '"' :: (s.toList.flatMap escapeChar ++ ['"'])

/-- A string with its quotes and escapes. -/
def writeText (s : String) : String := String.ofList (textChars s)

mutual

/-- The compact text of a value, as characters; a string that is no text is written empty. -/
def chars : Json → List Char
  | .null => "null".toList
  | .bool b => if b then "true".toList else "false".toList
  | .number n => n.chars
  | .text s => textChars (s.getD "")
  | .list items => '[' :: (itemChars items ++ [']'])
  | .object fields => '{' :: (fieldChars fields ++ ['}'])

/-- The items of a list, separated by commas. -/
def itemChars : List Json → List Char
  | [] => []
  | [v] => v.chars
  | v :: w :: rest => v.chars ++ ',' :: itemChars (w :: rest)

/-- The fields of an object, separated by commas. -/
def fieldChars : List (Option String × Json) → List Char
  | [] => []
  | [(name, v)] => textChars (name.getD "") ++ ':' :: v.chars
  | (name, v) :: next :: rest =>
    textChars (name.getD "") ++ ':' :: (v.chars ++ ',' :: fieldChars (next :: rest))

end

/-- The compact text of a value. -/
def write (v : Json) : String := String.ofList v.chars

end Json

end SpanIntake

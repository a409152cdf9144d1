/-
**TOML values.**

Numbers with a fraction and moments keep the spelling that the document gives them; a table keeps
its entries in the order in which they were made.

Main definitions

* `Toml.Value` — a value;
* `Toml.lookup?` — the value of a key in a table.
-/

set_option relaxedAutoImplicit false
set_option autoImplicit false

namespace SpanIntake.Toml

/-- A value of a document. -/
inductive Value where
  /-- A string. -/
  | text (s : String)
  /-- A whole number. -/
  | integer (n : Int)
  /-- A number with a fraction or an exponent, an infinity, or no number. -/
  | float (spelling : String)
  /-- A truth value. -/
  | boolean (b : Bool)
  /-- A date, a time, or both. -/
  | moment (spelling : String)
  /-- A list of values. -/
  | array (items : List Value)
  /-- Keys with their values. -/
  | table (entries : List (String × Value))

/-- The value of a key. -/
def lookup? (key : String) (entries : List (String × Value)) : Option Value :=
  (entries.find? fun e => e.1 = key).map Prod.snd

end SpanIntake.Toml

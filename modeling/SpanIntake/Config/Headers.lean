/-
**Header lists.**

A list of headers is written as entries `name=value` between commas.  Blanks around an entry, its
name and its value do not count, blank entries are passed over, and the first equals sign ends the
name.

Main definitions

* `HeaderList.parse` — the headers of a text, in order;
* `HeaderList.write` — headers as a text.
-/

import SpanIntake.Text.Blank
import SpanIntake.Text.Pieces

set_option relaxedAutoImplicit false
set_option autoImplicit false

namespace SpanIntake.HeaderList

/-- Why a text is no list of headers. -/
inductive Error where
  /-- An entry without an equals sign. -/
  | noEquals
  /-- An entry whose name is blank. -/
  | emptyName
  deriving DecidableEq, Repr

/-- The text of an error. -/
def Error.message : Error → String
  | .noEquals => "header entries must use key=value syntax"
  | .emptyName => "header key cannot be empty"

/-- The text before the first equals sign and behind it. -/
def splitEquals? : List Char → Option (List Char × List Char)
  | [] => none
  | c :: cs =>
    if c = '=' then some ([], cs)
    else (splitEquals? cs).map fun r => (c :: r.1, r.2)

/-- The header of an entry; none of a blank one. -/
def entry (cs : List Char) : Except Error (Option (String × String)) :=
  let cs := Blank.trimChars cs
  if cs.isEmpty then .ok none
  else
    match splitEquals? cs with
    | none => .error .noEquals
    | some (name, value) =>
      let name := Blank.trimChars name
      if name.isEmpty then .error .emptyName
      else .ok (some (String.ofList name, String.ofList (Blank.trimChars value)))

/-- The headers of entries, or the error of the first bad one. -/
def entries : List (List Char) → Except Error (List (String × String))
  | [] => .ok []
  | e :: es =>
    match entry e with
    | .error err => .error err
    | .ok h =>
      match entries es with
      | .error err => .error err
      | .ok hs => .ok (h.toList ++ hs)

/-- The headers of a text. -/
def parse (s : String) : Except Error (List (String × String)) :=
  entries (pieces (· = ',') s.toList)

/-- Headers as a text. -/
def write (hs : List (String × String)) : String :=
  ",".intercalate (hs.map fun h => h.1 ++ "=" ++ h.2)

end SpanIntake.HeaderList

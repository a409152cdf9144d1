/-
**Messages of HTTP.**

A request and a response carry headers, whose names are in lower case and may repeat, and a body.

Main definitions

* `Http.Request`, `Http.Response` — the messages;
* `Http.path` — the path of a target;
* `Http.header?` — the first value of a header;
* `Http.visible?` — the text of a value of visible characters.
-/

import SpanIntake.Text.Utf8

set_option relaxedAutoImplicit false
set_option autoImplicit false

namespace SpanIntake.Http

/-- Headers in the order of the message. -/
abbrev Headers := List (String × Bytes)

/-- A request. -/
structure Request where
  /-- What is asked for. -/
  method : String
  /-- The path, with a query behind a question mark. -/
  target : String
  /-- The headers. -/
  headers : Headers
  /-- The body. -/
  body : Bytes

/-- The path of a target, without a query or a fragment. -/
def path (target : String) : String :=
  String.ofList (target.toList.takeWhile fun c => c ≠ '?' ∧ c ≠ '#')

/-- A response. -/
structure Response where
  /-- The status code. -/
  status : Nat
  /-- The headers. -/
  headers : List (String × String)
  /-- The body. -/
  body : String
  deriving DecidableEq

/-- The first value of a header. -/
def header? (name : String) (hs : Headers) : Option Bytes :=
  (hs.find? fun h => h.1 = name).map Prod.snd

/-- Whether a byte is a visible ASCII character, a space or a tab. -/
def isVisible (b : UInt8) : Bool := (32 ≤ b && b < 127) || b == 9

/-- The text of a value, if all its bytes are visible. -/
def visible? (bs : Bytes) : Option String :=
  if bs.all isVisible then some (String.ofList (bs.map fun b => Char.ofNat b.toNat)) else none

end SpanIntake.Http

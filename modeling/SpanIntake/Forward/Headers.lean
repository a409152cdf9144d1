/-
**Headers that are sent along.**

A configured header is sent if its name and its value are allowed; otherwise it is left out and
reported.  Names are told apart without regard to case, and of headers with one name the last is
sent.

Main definitions

* `Forward.allowed?` — a header as it is sent;
* `Forward.sent`, `Forward.ignored` — the headers that are sent, and the reports of the others.

Main results

* `Forward.header?_set` — what was set is found.
-/

import SpanIntake.Forward.Target
import SpanIntake.Http.Message
import SpanIntake.Log.Event

set_option relaxedAutoImplicit false
set_option autoImplicit false

namespace SpanIntake.Forward

/-! ### Names and values -/

/-- Whether a character may stand in a name. -/
def isNameChar (c : Char) : Bool := c.isAlphanum || "!#$%&'*+-.^_`|~".toList.contains c

/-- Whether a name is one of headers with bytes, which gRPC writes in another way. -/
def isBinaryName (name : String) : Bool := "-bin".toList.isSuffixOf name.toList

/-- The length of the longest name. -/
def longestName : Nat := 65535

/-- The name of a header in lower case, if it is allowed. -/
def name? (protocol : Protocol) (s : String) : Option String :=
  let name := lower s
  if s.isEmpty || longestName < s.length || !s.toList.all isNameChar then none
  else if protocol = .grpc && isBinaryName name then none
  else some name

/-- Whether a byte may stand in a value. -/
def isValueByte (b : UInt8) : Bool := (32 ≤ b && b != 127) || b == 9

/-- The bytes of a value, if it is allowed. -/
def value? (s : String) : Option Bytes :=
  let bs := Utf8.encode s
  if bs.all isValueByte then some bs else none

/-- A header as it is sent, if it is allowed. -/
def allowed? (protocol : Protocol) (h : String × String) : Option (String × Bytes) :=
  match name? protocol h.1, value? h.2 with
  | some name, some value => some (name, value)
  | _, _ => none

/-! ### Lists of headers -/

/-- Headers with one of them set, in place of those of its name. -/
def set (hs : Http.Headers) (h : String × Bytes) : Http.Headers :=
  (hs.filter fun x => x.1 ≠ h.1) ++ [h]

/-- The configured headers that are sent. -/
def sent (protocol : Protocol) (configured : List (String × String)) : Http.Headers :=
  (configured.filterMap (allowed? protocol)).foldl set []

/-- The word for a protocol in reports. -/
def protocolLabel : Protocol → String
  | .grpc => "gRPC"
  | .httpProtobuf => "HTTP"

/-- The reports of the configured headers that are not sent. -/
def ignored (protocol : Protocol) (configured : List (String × String)) : List LogEvent :=
  (configured.filter fun h => (allowed? protocol h).isNone).map fun h =>
    ⟨.warn, s!"ignored invalid forward {protocolLabel protocol} header", [("header", h.1)]⟩

theorem header?_set (hs : Http.Headers) (h : String × Bytes) :
    Http.header? h.1 (set hs h) = some h.2 := by
  have hn : (hs.filter fun x => x.1 ≠ h.1).find? (fun x => x.1 = h.1) = none := by
    rw [List.find?_eq_none]
    intro x hx
    simpa using (List.mem_filter.1 hx).2
  rw [Http.header?, set, List.find?_append, hn]
  simp

theorem header?_set_of_ne (hs : Http.Headers) (h : String × Bytes) {name : String}
    (hne : name ≠ h.1) : Http.header? name (set hs h) = Http.header? name hs := by
  have hf : (hs.filter fun x => x.1 ≠ h.1).find? (fun x => x.1 = name)
      = hs.find? fun x => x.1 = name := by
    rw [List.find?_filter]
    congr 1
    funext x
    by_cases hx : x.1 = name <;> simp [hx, hne]
  rw [Http.header?, set, List.find?_append, hf]
  simp [Http.header?, Ne.symm hne]

end SpanIntake.Forward

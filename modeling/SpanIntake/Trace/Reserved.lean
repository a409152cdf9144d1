/-
**Reserved tags.**

Status and kind of a span have no field on the wire: they travel as tags with reserved keys.
Coming in, they are lifted out of the attributes; going out, they are put back as tags.

Main definitions

* `Reserved.lift` — status, kind and the remaining attributes of a span's tags;
* `Reserved.tags` — the reserved tags to emit for a status and a kind.
-/

import SpanIntake.Text.Blank
import SpanIntake.Trace.Attribute
import SpanIntake.Trace.Status

set_option relaxedAutoImplicit false
set_option autoImplicit false

namespace SpanIntake.Reserved

/-- The key of the status code. -/
def statusCode : String := "status.code"

/-- The key of the status message. -/
def statusMessage : String := "status.message"

/-- The key of the error flag. -/
def error : String := "error"

/-- The key of the span kind. -/
def spanKind : String := "span.kind"

/-! ### Interpretation -/

/-- The integer that a text spells: an optional sign and decimal digits, within 64 bits. -/
def int64? (s : String) : Option Int :=
  let digits? (negative : Bool) (ds : List Char) : Option Int :=
    if ds.isEmpty ∨ ¬ ds.all Char.isDigit then none
    else
      let size : Int := (ds.foldl (fun n c => 10 * n + (c.toNat - 48)) 0 : Nat)
      let n := if negative then -size else size
      if fitsInt64 n then some n else none
  match s.toList with
  | '-' :: ds => digits? true ds
  | '+' :: ds => digits? false ds
  | ds => digits? false ds

/-- The code with a number, the unknown one where the number has none. -/
def codeOrUnknown (n : Int) : StatusCode := (StatusCode.ofCode? n).getD .unknown

/-- The status code that a value means: an integer, a double without fraction, or a text that
spells an integer or a name. -/
def interpretCode? : AttributeValue → Option StatusCode
  | .int n => some (codeOrUnknown n.toInt)
  | .double d => d.truncate?.map codeOrUnknown
  | .text s =>
    let s := Blank.trim s
    match int64? s with
    | some n => some (codeOrUnknown n)
    | none => StatusCode.ofName? s
  | _ => none

/-- Whether a value of the error flag says that there was an error. -/
def isTruthy : AttributeValue → Bool
  | .bool b => b
  | .text s => StatusCode.foldCase s == "TRUE"
  | _ => false

/-- The kind that a value means. -/
def interpretKind? (v : AttributeValue) : Option SpanKind := v.text?.bind SpanKind.ofName?

/-! ### Lifting -/

/-- What is lifted out of a span's tags, and what remains. -/
structure Lifted where
  /-- The status. -/
  status : Status
  /-- The kind. -/
  kind : SpanKind
  /-- The remaining attributes. -/
  attributes : Attributes
  deriving DecidableEq

/-- Lifts status and kind out of attributes.  A status code that means nothing and a kind that is
not recognised stay; the message never stays, and the error flag always does.  Without a code the
error flag decides between success and an unknown failure. -/
def lift (a : Attributes) : Lifted :=
  let explicit := (a.get? statusCode).bind interpretCode?
  let a := if explicit.isSome then a.erase statusCode else a
  let message := ((a.get? statusMessage).map AttributeValue.toText).getD ""
  let a := a.erase statusMessage
  let flagged := (a.get? error).any isTruthy
  let code := explicit.getD (if flagged then .unknown else .ok)
  let kind := (a.get? spanKind).bind interpretKind?
  let a := if kind.isSome then a.erase spanKind else a
  ⟨⟨code, message⟩, kind.getD .unspecified, a⟩

/-! ### Putting back -/

/-- The reserved tags of a status and a kind, in the order they are emitted.  Success has no code;
a failure has an error flag, unless the attributes have one. -/
def tags (status : Status) (kind : SpanKind) (a : Attributes) : List (String × AttributeValue) :=
  (if status.isOk then [] else [(statusCode, .int (Int64.ofNat status.code.code))])
    ++ (if status.message.isEmpty then [] else [(statusMessage, .text status.message)])
    ++ (if status.isOk || a.contains error then [] else [(error, .bool true)])
    ++ (match kind.name? with
        | some name => [(spanKind, .text name)]
        | none => [])

end SpanIntake.Reserved

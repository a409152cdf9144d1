/-
**Status codes and span kinds.**

The seventeen status codes are numbered from zero and have upper-case names, which are recognised
in any mixture of ASCII cases.  The names of span kinds are recognised as they are only.

Main definitions

* `StatusCode` with `ofCode?`, `ofName?`, `code` and `name`;
* `Status` — a code and a message;
* `SpanKind` with `ofName?` and `name?`.

Main results

* `StatusCode.ofCode?_code` — the number of a code gives it back.
-/

set_option relaxedAutoImplicit false
set_option autoImplicit false

namespace SpanIntake

/-- How an operation ended. -/
inductive StatusCode where
  /-- It succeeded. -/
  | ok
  /-- It was cancelled. -/
  | cancelled
  /-- It failed for an unknown reason. -/
  | unknown
  /-- An argument was invalid. -/
  | invalidArgument
  /-- It did not finish in time. -/
  | deadlineExceeded
  /-- Something was not found. -/
  | notFound
  /-- Something exists already. -/
  | alreadyExists
  /-- The caller may not do this. -/
  | permissionDenied
  /-- A resource ran out. -/
  | resourceExhausted
  /-- The state does not allow this. -/
  | failedPrecondition
  /-- It was aborted. -/
  | aborted
  /-- A value was out of range. -/
  | outOfRange
  /-- It is not implemented. -/
  | unimplemented
  /-- An invariant was broken. -/
  | internal
  /-- The service is not available. -/
  | unavailable
  /-- Data was lost. -/
  | dataLoss
  /-- The caller is not known. -/
  | unauthenticated
  deriving DecidableEq, Repr, Inhabited

namespace StatusCode

/-- The codes with their names, in the order of their numbers. -/
def table : List (StatusCode × String) :=
  [(.ok, "OK"), (.cancelled, "CANCELLED"), (.unknown, "UNKNOWN"),
   (.invalidArgument, "INVALID_ARGUMENT"), (.deadlineExceeded, "DEADLINE_EXCEEDED"),
   (.notFound, "NOT_FOUND"), (.alreadyExists, "ALREADY_EXISTS"),
   (.permissionDenied, "PERMISSION_DENIED"), (.resourceExhausted, "RESOURCE_EXHAUSTED"),
   (.failedPrecondition, "FAILED_PRECONDITION"), (.aborted, "ABORTED"),
   (.outOfRange, "OUT_OF_RANGE"), (.unimplemented, "UNIMPLEMENTED"), (.internal, "INTERNAL"),
   (.unavailable, "UNAVAILABLE"), (.dataLoss, "DATA_LOSS"),
   (.unauthenticated, "UNAUTHENTICATED")]

/-- The number of a code. -/
def code (c : StatusCode) : Nat := c.ctorIdx

/-- The name of a code. -/
def name (c : StatusCode) : String :=
  match table[c.code]? with
  | some (_, name) => name
  | none => ""

/-- The code with a number. -/
def ofCode? (n : Int) : Option StatusCode :=
  if 0 ≤ n then (table[n.toNat]?).map (·.1) else none

/-- A text with its ASCII letters in upper case. -/
def foldCase (s : String) : String := String.ofList (s.toList.map Char.toUpper)

/-- The code with a name, whatever the case of its ASCII letters. -/
def ofName? (s : String) : Option StatusCode :=
  (table.find? fun entry => entry.2 == foldCase s).map (·.1)

/-- The code whose name is written exactly so. -/
def ofExactName? (s : String) : Option StatusCode :=
  (table.find? fun entry => entry.2 == s).map (·.1)

theorem ofCode?_code (c : StatusCode) : ofCode? c.code = some c := by
  cases c <;> rfl

end StatusCode

/-- A code with a message. -/
structure Status where
  /-- How the operation ended. -/
  code : StatusCode
  /-- What its author says about it. -/
  message : String
  deriving DecidableEq, Repr, Inhabited

/-- Whether the operation succeeded. -/
def Status.isOk (s : Status) : Bool := s.code == .ok

/-- The role of a span in a call between services. -/
inductive SpanKind where
  /-- Not stated. -/
  | unspecified
  /-- Calls another service. -/
  | client
  /-- Answers a call. -/
  | server
  /-- Sends a message. -/
  | producer
  /-- Receives a message. -/
  | consumer
  deriving DecidableEq, Repr, Inhabited

namespace SpanKind

/-- The name of a kind that is stated. -/
def name? : SpanKind → Option String
  | .unspecified => none
  | .client => some "client"
  | .server => some "server"
  | .producer => some "producer"
  | .consumer => some "consumer"

/-- The kind with a name. -/
def ofName? (s : String) : Option SpanKind :=
  if s = "client" then some .client
  else if s = "server" then some .server
  else if s = "producer" then some .producer
  else if s = "consumer" then some .consumer
  else none

theorem ofName?_eq_some_iff {s : String} {k : SpanKind} :
    ofName? s = some k ↔ k.name? = some s := by
  constructor
  · intro h
    unfold ofName? at h
    split at h
    · cases h; simp_all [name?]
    split at h
    · cases h; simp_all [name?]
    split at h
    · cases h; simp_all [name?]
    split at h
    · cases h; simp_all [name?]
    · cases h
  · intro h
    cases k <;> simp only [name?, Option.some.injEq, reduceCtorEq] at h <;> subst h <;> rfl

end SpanKind

end SpanIntake

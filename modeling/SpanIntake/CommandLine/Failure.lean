/-
**Failures of the program.**

A failure is reported with what the program was about and, below it, the chain of causes.

Main definitions

* `CommandLine.Failure` and `CommandLine.Failure.text`;
* `CommandLine.Ending` — how the program ends.
-/

import SpanIntake.Text.Pieces

set_option relaxedAutoImplicit false
set_option autoImplicit false

namespace SpanIntake.CommandLine

/-- Why the program fails. -/
structure Failure where
  /-- What it was about. -/
  context : String
  /-- The causes, each that of the one before it. -/
  causes : List String
  deriving DecidableEq

/-- A text whose further lines are indented. -/
def indented (indent s : String) : String :=
  ("\n" ++ indent).intercalate ((pieces (· = '\n') s.toList).map String.ofList)

/-- A cause among several, with its number. -/
def numberedCause (cause : String × Nat) : String :=
  "    " ++ toString cause.2 ++ ": " ++ indented "       " cause.1

/-- The causes below a failure: several are numbered. -/
def causesText : List String → String
  | [] => ""
  | [cause] => "\n\nCaused by:\n    " ++ indented "    " cause
  | causes => "\n\nCaused by:\n" ++ "\n".intercalate (causes.zipIdx.map numberedCause)

/-- The report of a failure. -/
def Failure.text (f : Failure) : String := "Error: " ++ f.context ++ causesText f.causes ++ "\n"

/-- How the program ends. -/
structure Ending where
  /-- The code that it gives back. -/
  exit : Nat
  /-- What it printed. -/
  stdout : String
  /-- What it reported. -/
  stderr : String
  deriving DecidableEq

/-- The ending with a failure. -/
def Failure.ending (f : Failure) : Ending := ⟨1, "", f.text⟩

/-- The ending with a success. -/
def Ending.success (stdout : String) : Ending := ⟨0, stdout, ""⟩

end SpanIntake.CommandLine

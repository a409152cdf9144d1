/-
**Reading periods.**

A written period is a row of terms, each a number, with or without a fraction, and a unit
(`1h 30min`, `1.5s`).  Blanks may stand anywhere but inside a unit.  The text is read character by
character; each stage of a term says what may follow.

Main definitions

* `Period.TextError` — why a text is no period, with its `message`;
* `Period.Unit` — the units and their names;
* `Period.parse` — the period that a text names.
-/

import SpanIntake.Text.Blank
import SpanIntake.Text.Quoted
import SpanIntake.Time.Period

set_option relaxedAutoImplicit false
set_option autoImplicit false

namespace SpanIntake.Period

/-- Why a text is no period.  Places count bytes. -/
inductive TextError where
  /-- Nothing but blanks. -/
  | empty
  /-- Something else where a number has to begin. -/
  | expectedNumber (place : Nat)
  /-- A character that cannot stand where it does. -/
  | invalidCharacter (place : Nat)
  /-- A number without a unit. -/
  | missingUnit (number : Nat)
  /-- A word that is no unit. -/
  | unknownUnit (name : String)
  /-- A number too large, or a fraction that is no whole number of nanoseconds or seconds. -/
  | notRepresentable
  deriving DecidableEq, Repr

/-- The text of an error. -/
def TextError.message : TextError → String
  | .empty => "value was empty"
  | .expectedNumber n => s!"expected number at {n}"
  | .invalidCharacter n => s!"invalid character at {n}"
  | .missingUnit n => s!"time unit needed, for example {n}sec or {n}ms"
  | .unknownUnit u =>
    "unknown time unit " ++ Quoted.quote u ++ ", supported units: ns, us/µs, ms, sec, min, hours, "
      ++ "days, weeks, months, years (and few variations)"
  | .notRepresentable =>
    "number is too large or cannot be represented without a lack of precision "
      ++ "(values below 1ns are not supported)"

/-! ### Units -/

/-- The units of time. -/
inductive Unit where
  | nanosecond
  | microsecond
  | millisecond
  | second
  | minute
  | hour
  | day
  | week
  | month
  | year
  deriving DecidableEq, Repr

namespace Unit

/-- The names of a unit. -/
def names : Unit → List String
  | nanosecond => ["nanos", "nsec", "ns"]
  | microsecond => ["usec", "us", "µs"]
  | millisecond => ["millis", "msec", "ms"]
  | second => ["seconds", "second", "secs", "sec", "s"]
  | minute => ["minutes", "minute", "min", "mins", "m"]
  | hour => ["hours", "hour", "hrs", "hr", "h"]
  | day => ["days", "day", "d"]
  | week => ["weeks", "week", "wks", "wk", "w"]
  | month => ["months", "month", "M"]
  | year => ["years", "year", "yrs", "yr", "y"]

/-- All units. -/
def all : List Unit :=
  [nanosecond, microsecond, millisecond, second, minute, hour, day, week, month, year]

/-- The unit of a name. -/
def ofName? (name : String) : Option Unit := all.find? fun u => u.names.contains name

/-- Nanoseconds in a unit up to a minute, which is how fine its fractions may be. -/
def fine? : Unit → Option Nat
  | microsecond => some 1000
  | millisecond => some 1000000
  | second => some 1000000000
  | minute => some 60000000000
  | _ => none

/-- Seconds in a unit; a month is 30.44 days and a year 365.25. -/
def seconds? : Unit → Option Nat
  | second => some 1
  | minute => some 60
  | hour => some 3600
  | day => some 86400
  | week => some 604800
  | month => some 2630016
  | year => some 31557600
  | _ => none

end Unit

/-! ### Terms -/

/-- A number, if it fits an unsigned 64-bit word. -/
def word (n : Nat) : Except TextError Nat :=
  if n < UInt64.size then .ok n else .error .notRepresentable

/-- A fraction, the digits after the point over a power of ten. -/
structure Fraction where
  /-- The number that the digits write. -/
  numerator : Nat
  /-- The power of ten. -/
  denominator : Nat
  deriving DecidableEq, Repr

/-- A fraction with one more digit. -/
def Fraction.push (f : Fraction) (digit : Nat) : Except TextError Fraction := do
  let denominator ← word (f.denominator * 10)
  let numerator ← word (f.numerator * 10 + digit)
  return ⟨numerator, denominator⟩

/-- A fraction of a quantity that has to come out whole. -/
def Fraction.of (f : Fraction) (quantity : Nat) : Except TextError Nat := do
  let n ← word (f.numerator * quantity)
  if n % f.denominator = 0 then .ok (n / f.denominator) else .error .notRepresentable

/-- A period and so many more seconds and nanoseconds. -/
def add (total : Period) (seconds nanos : Nat) : Except TextError Period := do
  let nanos ← word (total.subNanos + nanos)
  let seconds ← word (seconds + nanos / 1000000000)
  let seconds ← word (total.seconds + seconds)
  return ⟨seconds * 1000000000 + nanos % 1000000000⟩

/-- A whole number of a unit more. -/
def addWhole (total : Period) (n : Nat) (u : Unit) : Except TextError Period :=
  match u.seconds? with
  | some s => do total.add (← word (n * s)) 0
  | none => do total.add 0 (← word (n * u.fine?.getD 1))

/-- A fraction of a unit more: of a minute or less in nanoseconds, of an hour or more in whole
seconds. -/
def addFraction (total : Period) (f : Fraction) (u : Unit) : Except TextError Period :=
  match u.fine?, u.seconds? with
  | some n, _ => do total.add 0 (← f.of n)
  | none, some s => do total.add (← f.of s) 0
  | none, none => .error .notRepresentable

/-- The term of a number, its fraction and the word behind it. -/
def addTerm (total : Period) (n : Nat) (f : Option Fraction) (name : String) :
    Except TextError Period :=
  match Unit.ofName? name with
  | none => .error (if name.isEmpty then .missingUnit n else .unknownUnit name)
  | some u => do
    let total ← total.addWhole n u
    match f with
    | none => return total
    | some f => total.addFraction f u

/-! ### The reader -/

/-- How far a term has been read. -/
inductive Stage where
  /-- No term has begun since the given place. -/
  | between (since : Nat)
  /-- Inside the digits of a number. -/
  | whole (n : Nat)
  /-- Behind the point of a number; `place` is where the last character ended, or the point's own
  place. -/
  | fraction (n : Nat) (f : Fraction) (place : Nat)
  /-- Inside a unit, whose letters so far are in reverse. -/
  | unit (n : Nat) (f : Option Fraction) (letters : List Char)
  deriving DecidableEq, Repr

/-- Whether a character may stand in a unit. -/
def isUnitLetter (c : Char) : Bool := c.isAlpha || c == 'µ'

/-- The value of a digit. -/
def digit (c : Char) : Nat := c.toNat - '0'.toNat

/-- What has been read: the place, the period of the finished terms, and the stage of the last. -/
structure Progress where
  /-- Bytes read. -/
  place : Nat
  /-- The sum of the finished terms. -/
  total : Period
  /-- The unfinished term. -/
  stage : Stage
  deriving DecidableEq, Repr

/-- Reads one more character. -/
def Progress.step (p : Progress) (c : Char) : Except TextError Progress := do
  let next := p.place + c.utf8Size
  match p.stage with
  | .between since =>
    if c.isDigit then return ⟨next, p.total, .whole (digit c)⟩
    else if Blank.isBlank c then return { p with place := next }
    else throw (.expectedNumber since)
  | .whole n =>
    if c.isDigit then return ⟨next, p.total, .whole (← word (n * 10 + digit c))⟩
    else if Blank.isBlank c then return { p with place := next }
    else if isUnitLetter c then return ⟨next, p.total, .unit n none [c]⟩
    else if c = '.' then return ⟨next, p.total, .fraction n ⟨0, 1⟩ p.place⟩
    else throw (.invalidCharacter p.place)
  | .fraction n f place =>
    if c.isDigit then return ⟨next, p.total, .fraction n (← f.push (digit c)) next⟩
    else if Blank.isBlank c then return ⟨next, p.total, .fraction n f next⟩
    else if isUnitLetter c ∧ f.denominator ≠ 1 then return ⟨next, p.total, .unit n (some f) [c]⟩
    else throw (.invalidCharacter place)
  | .unit n f letters =>
    if isUnitLetter c then return ⟨next, p.total, .unit n f (c :: letters)⟩
    else if c.isDigit then
      let total ← p.total.addTerm n f (String.ofList letters.reverse)
      return ⟨next, total, .whole (digit c)⟩
    else if Blank.isBlank c then
      let total ← p.total.addTerm n f (String.ofList letters.reverse)
      return ⟨next, total, .between next⟩
    else throw (.invalidCharacter p.place)

/-- The period read when the text ends. -/
def Progress.finish (p : Progress) : Except TextError Period :=
  match p.stage with
  | .between _ => .ok p.total
  | .whole n => p.total.addTerm n none ""
  | .fraction n f place =>
    if f.denominator = 1 then .error (.invalidCharacter place) else p.total.addTerm n (some f) ""
  | .unit n f letters => p.total.addTerm n f (String.ofList letters.reverse)

/-- The period that a text names; a lone zero needs no unit. -/
def parse (s : String) : Except TextError Period :=
  if s = "0" then .ok ⟨0⟩
  else if s.toList.all Blank.isBlank then .error .empty
  else (s.toList.foldlM Progress.step ⟨0, ⟨0⟩, .between 0⟩).bind Progress.finish

end SpanIntake.Period

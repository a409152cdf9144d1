/-
**Instants as text**, in the profile of RFC 3339.

Written times are in UTC, with no, three, six or nine places of a second as needed, or with six
always; years outside 0 to 9999 have a sign and at least four digits.  The reader is laxer than
the writer: blanks may stand between the parts, a blank or a small letter may part date and time,
any count of places and any offset below a day is taken.

Main definitions

* `Rfc3339.write` — an instant as text;
* `Rfc3339.read?` — the instant that a text names.
-/

import SpanIntake.Text.Blank
import SpanIntake.Time.Calendar
import SpanIntake.Time.Instant

set_option relaxedAutoImplicit false
set_option autoImplicit false

namespace SpanIntake.Rfc3339

/-! ### Writing -/

/-- A number in decimal, filled up with zeros to a width. -/
def padded (width n : Nat) : List Char :=
  let ds := Nat.toDigits 10 n
  List.replicate (width - ds.length) '0' ++ ds

/-- A year: four digits, with a sign outside 0 to 9999. -/
def yearChars (year : Int) : List Char :=
  if 0 ≤ year ∧ year ≤ 9999 then padded 4 year.toNat
  else (if year < 0 then '-' else '+') :: padded 4 year.natAbs

/-- How many places of a second are written. -/
inductive Places where
  /-- As few of none, three, six and nine as lose nothing. -/
  | needed
  /-- Six always. -/
  | six
  deriving DecidableEq, Repr

/-- The places of a second, with the point. -/
def fractionChars (places : Places) (nanos : Nat) : List Char :=
  match places with
  | .six => '.' :: padded 6 (nanos / 1000)
  | .needed =>
    if nanos = 0 then []
    else if nanos % 1000000 = 0 then '.' :: padded 3 (nanos / 1000000)
    else if nanos % 1000 = 0 then '.' :: padded 6 (nanos / 1000)
    else '.' :: padded 9 nanos

/-- How the offset of UTC is written. -/
inductive Zone where
  /-- The letter `Z`. -/
  | letter
  /-- The offset `+00:00`. -/
  | offset
  deriving DecidableEq, Repr

/-- The characters of an offset. -/
def Zone.chars : Zone → List Char
  | .letter => ['Z']
  | .offset => "+00:00".toList

/-- An instant as characters.  A leap second is the second 60. -/
def chars (places : Places) (zone : Zone) (t : Instant) : List Char :=
  let date := Date.ofDays (t.seconds / 86400)
  let ofDay := (t.seconds % 86400).toNat
  let second := ofDay % 60 + t.nanos / 1000000000
  yearChars date.year ++ '-' :: padded 2 date.month ++ '-' :: padded 2 date.day
    ++ 'T' :: padded 2 (ofDay / 3600) ++ ':' :: padded 2 (ofDay / 60 % 60) ++ ':' :: padded 2 second
    ++ fractionChars places (t.nanos % 1000000000) ++ zone.chars

/-- An instant as text. -/
def write (places : Places) (zone : Zone) (t : Instant) : String :=
  String.ofList (chars places zone t)

/-! ### Reading -/

/-- The number that decimal digits spell. -/
def digitsValue (ds : List Char) : Nat := ds.foldl (fun n c => 10 * n + (c.toNat - 48)) 0

/-- One to `most` digits as a number, and the rest. -/
def number? (most : Nat) (cs : List Char) : Option (Nat × List Char) :=
  let ds := (cs.take most).takeWhile Char.isDigit
  if ds.isEmpty then none else some (digitsValue ds, cs.drop ds.length)

/-- A number of one or two digits behind blanks, and the rest. -/
def twoDigits? (cs : List Char) : Option (Nat × List Char) := number? 2 (Blank.dropBlanks cs)

/-- A year behind blanks: any count of digits behind a sign, at most four without. -/
def year? (cs : List Char) : Option (Int × List Char) :=
  match Blank.dropBlanks cs with
  | '-' :: rest => (number? rest.length rest).map fun (n, rest) => (-(n : Int), rest)
  | '+' :: rest => (number? rest.length rest).map fun (n, rest) => ((n : Int), rest)
  | cs => (number? 4 cs).map fun (n, rest) => ((n : Int), rest)

/-- The rest behind a separator that blanks may stand in front of. -/
def separator? (c : Char) (cs : List Char) : Option (List Char) :=
  match Blank.dropBlanks cs with
  | d :: rest => if d = c then some rest else none
  | [] => none

/-- Places of a second in nanoseconds; those beyond the ninth are passed over. -/
def fraction? : List Char → Option (Nat × List Char)
  | '.' :: rest =>
    let ds := rest.takeWhile Char.isDigit
    if ds.isEmpty then none
    else
      let nine := (ds ++ List.replicate 9 '0').take 9
      some (digitsValue nine, rest.drop ds.length)
  | cs => some (0, cs)

/-- The hours and minutes of an offset behind its sign, in seconds. -/
def offsetSize? (cs : List Char) : Option (Nat × List Char) :=
  match cs with
  | h :: h' :: rest =>
    if h.isDigit ∧ h'.isDigit then
      match rest.dropWhile (fun c => c == ':' || Blank.isBlank c) with
      | m :: m' :: rest =>
        if '0' ≤ m ∧ m ≤ '5' ∧ m'.isDigit then
          some (digitsValue [h, h'] * 3600 + digitsValue [m, m'] * 60, rest)
        else none
      | _ => none
    else none
  | _ => none

/-- The seconds by which local time is ahead of UTC. -/
def offset? (cs : List Char) : Option (Int × List Char) :=
  match cs with
  | 'Z' :: rest => some (0, rest)
  | 'z' :: rest => some (0, rest)
  | '+' :: rest => (offsetSize? rest).map fun (n, rest) => ((n : Int), rest)
  | '-' :: rest => (offsetSize? rest).map fun (n, rest) => (-(n : Int), rest)
  | '\u2212' :: rest => (offsetSize? rest).map fun (n, rest) => (-(n : Int), rest)
  | u :: t :: c :: rest =>
    if u.toUpper = 'U' ∧ t.toUpper = 'T' ∧ c.toUpper = 'C' then some (0, rest) else none
  | _ => none

/-- The date at the head of a text. -/
def date? (cs : List Char) : Option (Date × List Char) := do
  let (year, cs) ← year? cs
  let cs ← separator? '-' cs
  let (month, cs) ← twoDigits? cs
  let cs ← separator? '-' cs
  let (day, cs) ← twoDigits? cs
  pure (⟨year, month, day⟩, cs)

/-- The rest behind the mark that parts date and time. -/
def dateTimeMark? : List Char → Option (List Char)
  | c :: rest => if c = 'T' ∨ c = 't' ∨ c = ' ' then some rest else none
  | [] => none

/-- The seconds of the day and the nanoseconds at the head of a text; the second 60 is a leap
second. -/
def timeOfDay? (cs : List Char) : Option (Nat × Nat × List Char) := do
  let (hour, cs) ← twoDigits? cs
  let cs ← separator? ':' cs
  let (minute, cs) ← twoDigits? cs
  let cs ← separator? ':' cs
  let (second, cs) ← twoDigits? cs
  let (nanos, cs) ← fraction? cs
  if hour ≤ 23 ∧ minute ≤ 59 ∧ second ≤ 60 then
    let whole := if second = 60 then 59 else second
    let nanos := if second = 60 then nanos + 1000000000 else nanos
    pure (hour * 3600 + minute * 60 + whole, nanos, cs)
  else none

/-- The days of the first and the last date that local time may show. -/
def dayRange : Int × Int :=
  (Instant.minSeconds / 86400, Instant.maxSeconds / 86400)

/-- The instant that a text names. -/
def read? (s : String) : Option Instant := do
  let (date, cs) ← date? s.toList
  let cs ← dateTimeMark? cs
  let (ofDay, nanos, cs) ← timeOfDay? cs
  let (ahead, cs) ← offset? (Blank.dropBlanks cs)
  if (Blank.dropBlanks cs).isEmpty ∧ date.isValid ∧ ahead.natAbs < 86400
      ∧ dayRange.1 ≤ date.toDays ∧ date.toDays ≤ dayRange.2 then
    Instant.ofSeconds? (date.toDays * 86400 + ofDay - ahead) nanos
  else none

end SpanIntake.Rfc3339

/-
**Socket addresses.**

An address of version 4 is four octets between points, one of version 6 is eight groups of
hexadecimal digits between colons, where two colons stand for a run of zeros and the last two groups
may be written as an address of version 4.  A socket address adds a port.

Main definitions

* `SocketAddress` — an address with its port, and a scope in version 6;
* `SocketAddress.parse?`, `SocketAddress.text` — reading and canonical text.
-/

import SpanIntake.Bytes.Hex

set_option relaxedAutoImplicit false
set_option autoImplicit false

namespace SpanIntake

/-- Four octets. -/
structure Ipv4 where
  /-- The first octet. -/
  a : UInt8
  /-- The second octet. -/
  b : UInt8
  /-- The third octet. -/
  c : UInt8
  /-- The fourth octet. -/
  d : UInt8
  deriving DecidableEq, BEq, Repr

/-- An address and a port. -/
inductive SocketAddress where
  /-- Version 4. -/
  | v4 (ip : Ipv4) (port : UInt16)
  /-- Version 6: eight groups. -/
  | v6 (groups : List UInt16) (scope : UInt32) (port : UInt16)
  deriving DecidableEq, BEq, Repr

/-! ### Reading -/

namespace Net

/-- The rest behind a given character. -/
def mark? (c : Char) : List Char → Option (List Char)
  | d :: rest => if c = d then some rest else none
  | [] => none

/-- The number of digits in a base. -/
def number (base : Nat) (ds : List Char) : Nat :=
  ds.foldl (fun n c => n * base + (Hex.digitValue? c).getD 0) 0

/-- Leading digits of a base and the rest. -/
def spanDigits (base : Nat) (cs : List Char) : List Char × List Char :=
  let isDigit (c : Char) : Bool := (Hex.digitValue? c).any (· < base)
  (cs.takeWhile isDigit, cs.dropWhile isDigit)

/-- A decimal number below a limit, of any number of digits. -/
def decimal? (limit : Nat) (cs : List Char) : Option (Nat × List Char) :=
  match spanDigits 10 cs with
  | ([], _) => none
  | (ds, rest) => if number 10 ds < limit then some (number 10 ds, rest) else none

/-- An octet: at most three digits, the first no zero unless it is the only one. -/
def octet? (cs : List Char) : Option (UInt8 × List Char) :=
  match spanDigits 10 cs with
  | ('0' :: _ :: _, _) => none
  | ([], _) => none
  | (ds, rest) =>
    if number 10 ds < 256 then some (UInt8.ofNat (number 10 ds), rest) else none

/-- Four octets. -/
def ipv4? (cs : List Char) : Option (Ipv4 × List Char) := do
  let (a, cs) ← octet? cs
  let (b, cs) ← octet? (← mark? '.' cs)
  let (c, cs) ← octet? (← mark? '.' cs)
  let (d, cs) ← octet? (← mark? '.' cs)
  return (⟨a, b, c, d⟩, cs)

/-- A group: one to four hexadecimal digits. -/
def group? (cs : List Char) : Option (UInt16 × List Char) :=
  match spanDigits 16 cs with
  | ([], _) => none
  | (ds, rest) =>
    if ds.length ≤ 4 then some (UInt16.ofNat (number 16 ds), rest) else none

/-- The two groups of an address of version 4. -/
def Ipv4.groups (ip : Ipv4) : List UInt16 :=
  [ip.a.toUInt16 * 256 + ip.b.toUInt16, ip.c.toUInt16 * 256 + ip.d.toUInt16]

/-- The rest behind the colon between groups; the first group has none before it. -/
def separator? (first : Bool) (cs : List Char) : Option (List Char) :=
  if first then some cs else mark? ':' cs

/-- At most so many groups, whether the last two were written as an address of version 4, and the
rest. -/
def groups : Nat → Bool → List Char → List UInt16 × Bool × List Char
  | 0, _, cs => ([], false, cs)
  | more + 1, first, cs =>
    match (if more = 0 then none else (separator? first cs).bind ipv4?) with
    | some (ip, rest) => (Ipv4.groups ip, true, rest)
    | none =>
      match (separator? first cs).bind group? with
      | none => ([], false, cs)
      | some (g, rest) =>
        let (gs, mixed, rest) := groups more false rest
        (g :: gs, mixed, rest)

/-- Eight groups. -/
def ipv6? (cs : List Char) : Option (List UInt16 × List Char) :=
  let (front, mixed, rest) := groups 8 true cs
  if front.length = 8 then some (front, rest)
  else if mixed then none
  else do
    let rest ← mark? ':' (← mark? ':' rest)
    let (back, _, rest) := groups (7 - front.length) true rest
    return (front ++ List.replicate (8 - front.length - back.length) 0 ++ back, rest)

/-- A colon and a port. -/
def port? (cs : List Char) : Option (UInt16 × List Char) := do
  let (n, rest) ← decimal? 65536 (← mark? ':' cs)
  return (UInt16.ofNat n, rest)

/-- The scope of an address, if one stands first. -/
def scope (cs : List Char) : UInt32 × List Char :=
  match (mark? '%' cs).bind (decimal? 4294967296) with
  | some (n, rest) => (UInt32.ofNat n, rest)
  | none => (0, cs)

end Net

namespace SocketAddress

/-- The socket address that a text begins with, and the rest. -/
def read? (cs : List Char) : Option (SocketAddress × List Char) :=
  match cs with
  | '[' :: rest => do
    let (gs, rest) ← Net.ipv6? rest
    let (scope, rest) := Net.scope rest
    let (port, rest) ← Net.port? (← Net.mark? ']' rest)
    return (.v6 gs scope port, rest)
  | _ => do
    let (ip, rest) ← Net.ipv4? cs
    let (port, rest) ← Net.port? rest
    return (.v4 ip port, rest)

/-- The socket address that a text is. -/
def parse? (s : String) : Option SocketAddress :=
  match read? s.toList with
  | some (a, []) => some a
  | _ => none

/-! ### Text -/

/-- The text of four octets. -/
def ipv4Text (ip : Ipv4) : String := s!"{ip.a.toNat}.{ip.b.toNat}.{ip.c.toNat}.{ip.d.toNat}"

/-- The text of a group. -/
def groupText (g : UInt16) : String := String.ofList (Nat.toDigits 16 g.toNat)

/-- Groups between colons. -/
def groupsText (gs : List UInt16) : String := ":".intercalate (gs.map groupText)

/-- How many zeros a list begins with. -/
def zeroRun (gs : List UInt16) : Nat := (gs.takeWhile (· == 0)).length

/-- Where the longest run of zeros begins and how long it is; of equal ones the first. -/
def longestZeros (gs : List UInt16) : Nat × Nat :=
  (List.range gs.length).foldl
    (fun best i =>
      let run := zeroRun (gs.drop i)
      if best.2 < run then (i, run) else best)
    (0, 0)

/-- The text of eight groups: the longest run of two or more zeros is left out. -/
def plainIpv6Text (gs : List UInt16) : String :=
  let (start, run) := longestZeros gs
  if 2 ≤ run then groupsText (gs.take start) ++ "::" ++ groupsText (gs.drop (start + run))
  else groupsText gs

/-- The text of an address of version 6; one of version 4 inside it keeps its own text. -/
def ipv6Text (gs : List UInt16) : String :=
  match gs with
  | [0, 0, 0, 0, 0, 0xFFFF, g, h] =>
    "::ffff:" ++ ipv4Text ⟨(g / 256).toUInt8, g.toUInt8, (h / 256).toUInt8, h.toUInt8⟩
  | _ => plainIpv6Text gs

/-- The canonical text of a socket address. -/
def text : SocketAddress → String
  | v4 ip port => s!"{ipv4Text ip}:{port.toNat}"
  | v6 gs scope port =>
    let scopeText := if scope = 0 then "" else s!"%{scope.toNat}"
    s!"[{ipv6Text gs}{scopeText}]:{port.toNat}"

/-- The same address with another port. -/
def withPort : SocketAddress → UInt16 → SocketAddress
  | v4 ip _, port => v4 ip port
  | v6 gs scope _, port => v6 gs scope port

end SocketAddress

end SpanIntake

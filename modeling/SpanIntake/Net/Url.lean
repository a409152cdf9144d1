/-
**Addresses of web servers.**

Clients of the web know an address by its normal text: the scheme and the host in lower case, no
user, no port where it is the usual one, no `.` and `..` in the path, and every character that has
no place in an address as the percent codes of its bytes.

Main definitions

* `Url` — an address in its parts;
* `Url.read?`, `Url.text` — reading an address and its normal text.
-/

import SpanIntake.Net.Address
import SpanIntake.Text.Percent
import SpanIntake.Text.Pieces

set_option relaxedAutoImplicit false
set_option autoImplicit false

namespace SpanIntake

/-- An address in its parts. -/
structure Url where
  /-- Whether the scheme is the secure one. -/
  secure : Bool
  /-- The host. -/
  host : List Char
  /-- The port, where it is not the usual one. -/
  port : Option Nat
  /-- The segments of the path, each behind a slash. -/
  path : List (List Char)
  /-- The query. -/
  query : Option (List Char)
  /-- The fragment. -/
  fragment : Option (List Char)
  deriving DecidableEq

namespace Url

/-! ### Percent codes -/

/-- A character as it stands in an address; those that the list names, those that are no ASCII and
those that are not shown are the percent codes of their bytes. -/
def encodeChar (special : List Char) (c : Char) : List Char :=
  if 0x20 ≤ c.toNat && c.toNat < 0x7F && !special.contains c then [c]
  else Percent.encodeChar c

/-- Characters as they stand in an address. -/
def encode (special cs : List Char) : List Char := cs.flatMap (encodeChar special)

/-- What does not stand in a fragment. -/
def fragmentSpecial : List Char := [' ', '"', '<', '>', '`']

/-- What does not stand in a path. -/
def pathSpecial : List Char := '#' :: '?' :: '\x7b' :: '\x7d' :: fragmentSpecial

/-- What does not stand in a query. -/
def querySpecial : List Char := [' ', '"', '#', '<', '>', '\'']

/-! ### Hosts -/

/-- Whether a character may stand in the name of a host. -/
def isHostChar (c : Char) : Bool :=
  0x21 ≤ c.toNat && c.toNat < 0x7F && !("#%/:<>?@[\\]^|".toList.contains c)

/-- The host of characters. -/
def readHost? (cs : List Char) : Option (List Char) :=
  match cs with
  | [] => none
  | '[' :: rest =>
    match Net.ipv6? rest with
    | some (groups, [']']) => some ('[' :: (SocketAddress.plainIpv6Text groups).toList ++ [']'])
    | _ => none
  | _ => if cs.all isHostChar then some (cs.map Char.toLower) else none

/-- The port behind a host; no digits mean the usual one. -/
def readPort? (usual : Nat) : List Char → Option (Option Nat)
  | [] | [':'] => some none
  | cs =>
    match Net.port? cs with
    | some (n, []) => some (if n.toNat = usual then none else some n.toNat)
    | _ => none

/-- The host of an authority and what stands behind it. -/
def splitHost (cs : List Char) : List Char × List Char :=
  match cs with
  | '[' :: _ =>
    (cs.takeWhile (· ≠ ']') ++ (cs.dropWhile (· ≠ ']')).take 1, (cs.dropWhile (· ≠ ']')).drop 1)
  | _ => (cs.takeWhile (· ≠ ':'), cs.dropWhile (· ≠ ':'))

/-- What stands behind the last at sign. -/
def behindUser (cs : List Char) : List Char := (cs.reverse.takeWhile (· ≠ '@')).reverse

/-! ### Paths -/

/-- Whether a character separates segments. -/
def isSlash (c : Char) : Bool := c = '/' || c = '\\'

/-- The segments between slashes. -/
def segments (cs : List Char) : List (List Char) := pieces isSlash cs

/-- A segment with the percent codes of points as points. -/
def points : List Char → List Char
  | '%' :: '2' :: 'e' :: cs => '.' :: points cs
  | '%' :: '2' :: 'E' :: cs => '.' :: points cs
  | c :: cs => c :: points cs
  | [] => []

/-- Segments with `.` and `..` resolved; the first argument holds those before, the last first. -/
def resolve : List (List Char) → List (List Char) → List (List Char)
  | before, [] => before.reverse
  | before, s :: rest =>
    let shown :=
      if points s = ['.'] then before
      else if points s = ['.', '.'] then before.drop 1
      else encode pathSpecial s :: before
    if rest.isEmpty && (points s = ['.'] || points s = ['.', '.']) then ([] :: shown).reverse
    else resolve shown rest

/-! ### Whole addresses -/

/-- The characters of a text that count: no blanks around it, and no tabs and ends of lines. -/
def relevant (s : String) : List Char :=
  let isEdge (c : Char) : Bool := c.toNat ≤ 0x20
  let cs := ((s.toList.dropWhile isEdge).reverse.dropWhile isEdge).reverse
  cs.filter fun c => c ≠ '\t' && c ≠ '\n' && c ≠ '\x0d'

/-- What stands behind a mark, if the mark is there. -/
def behind? (mark : Char) (cs : List Char) : Option (List Char) :=
  match cs.dropWhile (· ≠ mark) with
  | [] => none
  | _ :: rest => some rest

/-- The address whose scheme was read already. -/
def readBehind? (secure : Bool) (cs : List Char) : Option Url := do
  let cs := cs.dropWhile isSlash
  let shown := cs.takeWhile (· ≠ '#')
  let place := shown.takeWhile (· ≠ '?')
  let (host, port) := splitHost (behindUser (place.takeWhile fun c => !isSlash c))
  let host ← readHost? host
  let port ← readPort? (if secure then 443 else 80) port
  return {
    secure, host, port
    path := resolve [] (segments ((place.dropWhile fun c => !isSlash c).drop 1))
    query := (behind? '?' shown).map (encode querySpecial)
    fragment := (behind? '#' cs).map (encode fragmentSpecial) }

/-- The address that a text is. -/
def read? (s : String) : Option Url :=
  let cs := relevant s
  let scheme := (cs.takeWhile (· ≠ ':')).map Char.toLower
  (behind? ':' cs).bind fun rest =>
    if scheme = "http".toList then readBehind? false rest
    else if scheme = "https".toList then readBehind? true rest
    else none

/-- The normal text of an address. -/
def text (u : Url) : String :=
  let part (mark : String) : Option (List Char) → String
    | some cs => mark ++ String.ofList cs
    | none => ""
  (if u.secure then "https://" else "http://") ++ String.ofList u.host
    ++ part ":" (u.port.map (Nat.toDigits 10))
    ++ String.ofList (u.path.flatMap ('/' :: ·))
    ++ part "?" u.query ++ part "#" u.fragment

end Url

end SpanIntake

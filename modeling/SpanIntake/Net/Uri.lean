/-
**Addresses of gRPC servers.**

An address has one of the two schemes of the web, an authority that names the server, and a path
with a query behind it.  A text without a scheme gets the plain one.  Brackets enclose an address of
version 6, in which colons do not count, and what stands before an at sign names a user.

Main definitions

* `Uri` — an address;
* `Uri.Error` — what can be wrong with one, with its `message`;
* `Uri.withScheme`, `Uri.read` — completing and reading a text.
-/

set_option relaxedAutoImplicit false
set_option autoImplicit false

namespace SpanIntake

/-- An address of a server. -/
structure Uri where
  /-- Whether the scheme is the secure one. -/
  secure : Bool
  /-- The server, perhaps with a port and a user. -/
  authority : List Char
  /-- The path and the query. -/
  target : List Char
  deriving DecidableEq, Repr

namespace Uri

/-- What can be wrong with an address. -/
inductive Error where
  /-- It has more than 65534 bytes. -/
  | tooLong
  /-- Nothing stands behind the scheme. -/
  | empty
  /-- A path stands behind the scheme, but no server. -/
  | noAuthority
  /-- The server is not named as it should be. -/
  | badAuthority
  /-- A character has no place in an address. -/
  | badCharacter
  deriving DecidableEq, Repr

/-- The text of an error. -/
def Error.message : Error → String
  | .tooLong => "uri too long"
  | .empty => "empty string"
  | .noAuthority => "invalid format"
  | .badAuthority => "invalid authority"
  | .badCharacter => "invalid uri character"

/-! ### Authorities -/

/-- Whether a character ends an authority. -/
def endsAuthority (c : Char) : Bool := c = '/' || c = '?' || c = '#'

/-- Whether a character may stand in an authority as it is. -/
def isPlain (c : Char) : Bool := c.isAlphanum || "!$&'()*+,-.;=_~".toList.contains c

/-- What has been seen of an authority. -/
structure Scan where
  /-- The colons outside of brackets and behind the user. -/
  colons : Nat := 0
  /-- Whether a bracket was opened. -/
  opened : Bool := false
  /-- Whether it was closed. -/
  closed : Bool := false
  /-- Whether a percent sign stands outside of brackets and behind the user. -/
  percent : Bool := false

/-- One more character of an authority. -/
def Scan.step (s : Scan) (c : Char) : Except Error Scan :=
  if c = ':' then
    if 8 ≤ s.colons then .error .badAuthority else .ok { s with colons := s.colons + 1 }
  else if c = '[' then
    if s.percent || s.opened then .error .badAuthority else .ok { s with opened := true }
  else if c = ']' then
    if !s.opened || s.closed then .error .badAuthority
    else .ok { s with closed := true, colons := 0, percent := false }
  else if c = '@' then .ok { s with colons := 0, percent := false }
  else if c = '%' then .ok { s with percent := true }
  else if isPlain c then .ok s
  else .error .badCharacter

/-- Checks the characters of an authority. -/
def checkAuthority (cs : List Char) : Except Error Unit := do
  let s ← cs.foldlM Scan.step {}
  if s.opened ≠ s.closed || 1 < s.colons || cs.getLast? = some '@' || s.percent then
    throw .badAuthority

/-! ### Paths -/

/-- Whether a character may stand in a path. -/
def isPathChar (c : Char) : Bool :=
  0x21 ≤ c.toNat && !("#<>?`".toList.contains c)

/-- Whether a character may stand in a query. -/
def isQueryChar (c : Char) : Bool :=
  0x21 ≤ c.toNat && !("\"#<>".toList.contains c)

/-- The path and the query that characters begin with; a fragment behind them does not count. -/
def readTarget (cs : List Char) : Except Error (List Char) :=
  let shown := cs.takeWhile fun c => c ≠ '#'
  let path := shown.takeWhile fun c => c ≠ '?'
  let query := (shown.dropWhile fun c => c ≠ '?').drop 1
  if path.all isPathChar && query.all isQueryChar then .ok shown else .error .badCharacter

/-! ### Whole addresses -/

/-- The plain scheme. -/
def plainScheme : String := "http://"

/-- The secure scheme. -/
def secureScheme : String := "https://"

/-- A text with a scheme: a text without one gets the plain one. -/
def withScheme (s : String) : String :=
  if plainScheme.toList.isPrefixOf s.toList || secureScheme.toList.isPrefixOf s.toList then s
  else plainScheme ++ s

/-- The address whose scheme was read already. -/
def readBehind (secure : Bool) (cs : List Char) : Except Error Uri := do
  let authority := cs.takeWhile fun c => !endsAuthority c
  if cs.isEmpty then throw .empty
  checkAuthority authority
  if authority.isEmpty then throw .noAuthority
  let target ← readTarget (cs.dropWhile fun c => !endsAuthority c)
  return ⟨secure, authority, target⟩

/-- The address that a text is, once it has a scheme. -/
def read (s : String) : Except Error Uri :=
  let s := withScheme s
  if 65534 < s.utf8ByteSize then .error .tooLong
  else if secureScheme.toList.isPrefixOf s.toList then
    readBehind true (s.toList.drop secureScheme.length)
  else readBehind false (s.toList.drop plainScheme.length)

end Uri

end SpanIntake

/-
**Tables under construction.**

The lines of a document say where values go: under the table that the last header opened, and
below it along a dotted key.  A key gets a value once; a table is opened by one header; a dotted
key adds only to tables that dotted keys made.

Main definitions

* `Toml.Node`, `Toml.Branch` — what stands at a key while the document is read;
* `Toml.Branch.assign?`, `Toml.Branch.open?`, `Toml.Branch.openRow?` — the effect of a line;
* `Toml.Branch.entries` — the entries of the finished table.
-/

import SpanIntake.Toml.Value

set_option relaxedAutoImplicit false
set_option autoImplicit false

namespace SpanIntake.Toml

/-- How a table came to be. -/
inductive Origin where
  /-- It lies above a table that a header opened. -/
  | implied
  /-- It lies on the way of a dotted key. -/
  | dotted
  /-- A header opened it. -/
  | header
  deriving DecidableEq, Repr

mutual

/-- What stands at a key. -/
inductive Node where
  /-- A finished value. -/
  | value (v : Value)
  /-- A table that may grow. -/
  | branch (b : Branch)
  /-- An array of tables; only the last, which stands first, may grow. -/
  | rows (last : Branch) (earlier : List Branch)

/-- A table that may grow. -/
inductive Branch where
  | mk (origin : Origin) (children : List (String × Node))

end

namespace Branch

/-- How a table came to be. -/
def origin : Branch → Origin
  | mk o _ => o

/-- The keys of a table and what stands there. -/
def children : Branch → List (String × Node)
  | mk _ cs => cs

/-- A table without entries. -/
def empty (o : Origin) : Branch := mk o []

/-- What stands at a key. -/
def get? (b : Branch) (key : String) : Option Node :=
  (b.children.find? fun c => c.1 = key).map Prod.snd

/-- A table with a key set: in its old place, or as the last. -/
def put (b : Branch) (key : String) (n : Node) : Branch :=
  if (b.get? key).isSome then
    mk b.origin (b.children.map fun c => if c.1 = key then (key, n) else c)
  else mk b.origin (b.children ++ [(key, n)])

/-- Changes the table at the end of a path and makes those on the way that are missing.  Nothing if
the way leads through a value, or, along a dotted key, through a table with a header. -/
def under? (dotted : Bool) : List String → (Branch → Option Branch) → Branch → Option Branch
  | [], change, b => change b
  | key :: path, change, b =>
    match b.get? key with
    | none => do
      let c ← under? dotted path change (empty (if dotted then .dotted else .implied))
      return b.put key (.branch c)
    | some (.value _) => none
    | some (.branch c) =>
      if dotted && c.origin == .header then none
      else do return b.put key (.branch (← under? dotted path change c))
    | some (.rows last earlier) => do
      return b.put key (.rows (← under? dotted path change last) earlier)

/-- Gives a value to a key below a table. -/
def add? (path : List String) (key : String) (v : Value) (b : Branch) : Option Branch :=
  under? true path
    (fun c =>
      if (c.origin == .dotted) == path.isEmpty || (c.get? key).isSome then none
      else some (c.put key (.value v)))
    b

/-- Gives a value to a key below the table at `place`. -/
def assign? (place path : List String) (key : String) (v : Value) (root : Branch) :
    Option Branch :=
  root.under? false place (add? path key v)

/-- Opens the table `key` in the one at `path`. -/
def open? (path : List String) (key : String) (root : Branch) : Option Branch :=
  under? false path
    (fun b =>
      match b.get? key with
      | none => some (b.put key (.branch (empty .header)))
      | some (.branch c) =>
        if c.origin = .implied then some (b.put key (.branch (mk .header c.children))) else none
      | some _ => none)
    root

/-- Opens one more table of the array `key` in the table at `path`. -/
def openRow? (path : List String) (key : String) (root : Branch) : Option Branch :=
  under? false path
    (fun b =>
      match b.get? key with
      | none => some (b.put key (.rows (empty .header) []))
      | some (.rows last earlier) => some (b.put key (.rows (empty .header) (last :: earlier)))
      | some _ => none)
    root

end Branch

/-! ### Finished tables -/

mutual

/-- The value at a key of the finished table. -/
def Node.finish : Node → Value
  | .value v => v
  | .branch b => .table b.entries
  | .rows last earlier => .array (finishRows earlier [.table last.entries])

/-- The entries of the finished table. -/
def Branch.entries : Branch → List (String × Value)
  | .mk _ cs => finishChildren cs

/-- The entries of finished children. -/
def finishChildren : List (String × Node) → List (String × Value)
  | [] => []
  | (key, n) :: cs => (key, n.finish) :: finishChildren cs

/-- The rows of an array in the order of the document, put before later ones. -/
def finishRows : List Branch → List Value → List Value
  | [], later => later
  | b :: bs, later => finishRows bs (.table b.entries :: later)

end

end SpanIntake.Toml

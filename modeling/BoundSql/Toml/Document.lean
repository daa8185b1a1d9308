import BoundSql.Decimal.Binary64

/-!
# TOML documents

A `Toml` is a value of a document.  A table remembers how it came about, because that decides how
it can grow: a table that was opened by a header or written inline is complete, a table that only
lies on the way to a header can still be opened, and a table made by dotted keys can be extended
by dotted keys.  No key is ever given two values.  `insert` writes a value under a dotted key;
`openTable` and `pushTable` do what the two kinds of headers say.
-/

namespace BoundSql

/-- How a table of a document came about. -/
inductive Toml.Origin
  /-- Opened by a header. -/
  | header
  /-- On the way to a table that was opened by a header. -/
  | implied
  /-- On the way to a value that was written under a dotted key. -/
  | dotted
  /-- Written between braces. -/
  | inline
deriving DecidableEq

/-- A value of a TOML document. -/
inductive Toml
  | string (s : String)
  /-- An integer, unless its text denotes none. -/
  | integer (n : Option Int)
  /-- A floating point number, unless it is too large to be one. -/
  | float (x : Option Binary64)
  | bool (b : Bool)
  | dateTime (text : String)
  | array (items : List Toml)
  | table (origin : Toml.Origin) (members : List (String × Toml))
  /-- The tables that headers have pushed, with the members of the last one apart. -/
  | tables (earlier : List Toml) (last : List (String × Toml))
deriving Inhabited

namespace Toml

/-- The members of a table. -/
abbrev Members := List (String × Toml)

/-- Puts a value in the place of the one under a key. -/
def replace (key : String) (v : Toml) (members : Members) : Members :=
  members.map fun m => if m.1 = key then (key, v) else m

/-- Whether a dotted key can lead through a table; `ends` when the value belongs right into it. -/
def Origin.admits (origin : Origin) (ends : Bool) : Bool :=
  match origin with
  | .dotted => true
  | .implied => !ends
  | .header => false
  | .inline => false

/-- Writes a value under a dotted key, which must not have one. -/
def insert (path : List String) (v : Toml) (members : Members) : Option Members :=
  match path with
  | [] => none
  | [key] => if (members.lookup key).isNone then some (members ++ [(key, v)]) else none
  | key :: path =>
    match members.lookup key with
    | none => (insert path v []).map fun inner => members ++ [(key, .table .dotted inner)]
    | some (.table origin inner) =>
      if origin.admits (path.length == 1) then
        (insert path v inner).map fun inner => replace key (.table origin inner) members
      else none
    | some (.tables earlier last) =>
      if path.length = 1 then none
      else (insert path v last).map fun last => replace key (.tables earlier last) members
    | some _ => none

/-- Works on the members of the table that a header's path leads to, through the last of several. -/
def within (path : List String) (f : Members → Option Members) (members : Members) :
    Option Members :=
  match path with
  | [] => f members
  | key :: path =>
    match members.lookup key with
    | none => (within path f []).map fun inner => members ++ [(key, .table .implied inner)]
    | some (.table origin inner) =>
      if origin = .inline then none
      else (within path f inner).map fun inner => replace key (.table origin inner) members
    | some (.tables earlier last) =>
      (within path f last).map fun last => replace key (.tables earlier last) members
    | some _ => none

/-- Opens a table, which must not be open yet. -/
def openTable (key : String) (members : Members) : Option Members :=
  match members.lookup key with
  | none => some (members ++ [(key, .table .header [])])
  | some (.table .implied inner) => some (replace key (.table .header inner) members)
  | some _ => none

/-- Pushes a table to the tables of a key. -/
def pushTable (key : String) (members : Members) : Option Members :=
  match members.lookup key with
  | none => some (members ++ [(key, .tables [] [])])
  | some (.tables earlier last) =>
    some (replace key (.tables (earlier ++ [.table .header last]) []) members)
  | some _ => none

/-! ## Lines -/

/-- What a line of a document says. -/
inductive Line
  /-- The header of a table. -/
  | header (path : List String)
  /-- The header of a further table. -/
  | arrayHeader (path : List String)
  /-- A value under a dotted key of the table that was opened last. -/
  | pair (path : List String) (v : Toml)

/-- The members of the root, and the path to the table that was opened last. -/
structure Document where
  root : Members
  current : List String

/-- Does what a line says. -/
def Document.apply (d : Document) (line : Line) : Option Document :=
  match line with
  | .header path => do
    let root ← within path.dropLast (openTable (← path.getLast?)) d.root
    return ⟨root, path⟩
  | .arrayHeader path => do
    let root ← within path.dropLast (pushTable (← path.getLast?)) d.root
    return ⟨root, path⟩
  | .pair path v => do
    let root ← within d.current (insert path v) d.root
    return ⟨root, d.current⟩

/-- The members of the root of a document with the given lines. -/
def ofLines? (lines : List Line) : Option Members :=
  Document.root <$> lines.foldlM Document.apply ⟨[], []⟩

/-! ## Numbers in range -/

/-- Whether an integer fits into 128 bits, with or without sign. -/
def fitsInteger (n : Int) : Bool :=
  if n < 0 then n.natAbs ≤ twoPow 127 else n.natAbs < twoPow 128

mutual

/-- Whether all numbers in a value are in range. -/
def inRange : Toml → Bool
  | .integer n => n.any fitsInteger
  | .float x => x.isSome
  | .array items => allInRange items
  | .table _ members => membersInRange members
  | .tables earlier last => allInRange earlier && membersInRange last
  | _ => true

/-- Whether all numbers in all values are in range. -/
def allInRange : List Toml → Bool
  | [] => true
  | v :: items => inRange v && allInRange items

/-- Whether all numbers in all members are in range. -/
def membersInRange : Members → Bool
  | [] => true
  | (_, v) :: members => inRange v && membersInRange members

end

end Toml

end BoundSql

import BoundSql.Account.Failure
import BoundSql.Toml.Lines

/-!
# Configurations of an account store

A configuration is a TOML document whose table `tables` names the tables of a store; names that
are left out keep their defaults, and all else in the document is ignored.  The names can also be
given as an array, in the order user, session, key.  No name may be blank.
-/

namespace BoundSql.Account.Config

/-- The name that a member gives to a table, or the default without such a member. -/
def name? (members : Toml.Members) (table : Table) : Option String :=
  match members.lookup table.field with
  | none => some (Tables.default.name table)
  | some (.string s) => some s
  | some _ => none

/-- Whether a key names a table. -/
def isField (key : String) : Bool := [Table.user, .session, .key].any fun t => t.field == key

/-- Whether all numbers are in range in the members that name no table. -/
def othersInRange (members : Toml.Members) : Bool :=
  Toml.membersInRange (members.filter fun m => !isField m.1)

/-- The name at a position of an array, or the default past its end. -/
def item? (items : List Toml) (position : Nat) (table : Table) : Option String :=
  match items[position]? with
  | none => some (Tables.default.name table)
  | some (.string s) => some s
  | some _ => none

/-- The tables that the value of `tables` names. -/
def tables? : Toml → Option Tables
  | .table _ members => do
    if !othersInRange members then none
    else return ⟨← name? members .user, ← name? members .session, ← name? members .key⟩
  | .array items => do
    return ⟨← item? items 0 .user, ← item? items 1 .session, ← item? items 2 .key⟩
  | .dateTime _ => some Tables.default
  | _ => none

/-- The tables that a document names. -/
def ofDocument? (root : Toml.Members) : Option Tables :=
  if Toml.membersInRange (root.filter fun m => m.1 ≠ "tables") then
    match root.lookup "tables" with
    | none => some Tables.default
    | some v => tables? v
  else none

/-- Refuses tables of which one has a blank name. -/
def validate (tables : Tables) : Except Failure Tables :=
  match tables.firstBlank? with
  | some table => .error (.config (.blankName table))
  | none => .ok tables

/-- The tables that a configuration text names. -/
def ofText (s : String) : Except Failure Tables :=
  match Toml.ofText? s >>= ofDocument? with
  | some tables => validate tables
  | none => .error (.config .unparsable)

/-- The tables that a file names, given its bytes unless it cannot be opened. -/
def ofFile (bytes : Option ByteArray) : Except Failure Tables :=
  match bytes >>= String.fromUTF8? with
  | some s => ofText s
  | none => .error (.config .unreadable)

end BoundSql.Account.Config

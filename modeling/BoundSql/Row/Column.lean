import BoundSql.Fault
import BoundSql.Row

/-!
# Reading columns at a type

`FromValue` is the class of types at which a value can be read.  Reading never converts between
texts and numbers; an integer can be read as a number and either as a truth value, which is false
for zero.  `Row.read` reads a column of a row: a column that is absent reads as null, so it is
absent for an optional type and an error for all others.
-/

namespace BoundSql

/-- Types at which a value can be read. -/
class FromValue (α : Type) where
  fromValue : Value → Except ColumnFault α

export FromValue (fromValue)

instance : FromValue Value := ⟨.ok⟩

/-- The integer of an integer value. -/
def Value.toInteger (v : Value) : Except ColumnFault Int64 :=
  match v.integer? with
  | some n => .ok n
  | none => .error (.expected .integer v.kind)

instance : FromValue Int64 := ⟨Value.toInteger⟩

/-- The integer of an integer value, when it fits into 32 bits. -/
def Value.toInteger32 (v : Value) : Except ColumnFault Int32 := do
  let n ← v.toInteger
  if -2147483648 ≤ n.toInt ∧ n.toInt ≤ 2147483647 then .ok (.ofInt n.toInt)
  else .error (.outOfRange n)

instance : FromValue Int32 := ⟨Value.toInteger32⟩

/-- The number of an integer or floating point value. -/
def Value.toReal (v : Value) : Except ColumnFault Binary64 :=
  match v.real? with
  | some x => .ok x
  | none => .error (.expected .real v.kind)

instance : FromValue Binary64 := ⟨Value.toReal⟩

/-- The truth value of a number: whether it is not zero. -/
def Value.toBool : Value → Except ColumnFault Bool
  | .integer n => .ok (n != 0)
  | .real x => .ok !x.isZero
  | v => .error (.expected .integer v.kind)

instance : FromValue Bool := ⟨Value.toBool⟩

/-- The text of a text value. -/
def Value.toText (v : Value) : Except ColumnFault String :=
  match v.text? with
  | some s => .ok s
  | none => .error (.expected .text v.kind)

instance : FromValue String := ⟨Value.toText⟩

/-- The value at the type inside an optional, and nothing for null. -/
def Value.toOption {α : Type} [FromValue α] (v : Value) : Except ColumnFault (Option α) :=
  if v.isNull then .ok none else (fromValue v).map some

instance {α : Type} [FromValue α] : FromValue (Option α) := ⟨Value.toOption⟩

namespace Value

/-- Reads a value that is known to stand in a column of the given name. -/
def readAs (α : Type) [FromValue α] (column : String) (v : Value) : Except Fault α :=
  (fromValue v).mapError (.column column)

end Value

namespace Row

/-- Reads a column; what cannot be read of an absent column is not found. -/
def read {α : Type} [FromValue α] (r : Row) (column : String) : Except Fault α :=
  match r.get? column with
  | some v => v.readAs α column
  | none => (fromValue Value.null).mapError fun _ => .column column .notFound

end Row

end BoundSql

import BoundSql.Decimal.Binary32
import BoundSql.Value

/-!
# Values from typed data

`ToValue` is the class of types whose members can be bound to a placeholder.  All fixed-width
integers up to 64 bits and the booleans become integers, both floating point formats become
numbers, and an absent optional becomes null.
-/

namespace BoundSql

/-- Types whose members can be bound to a placeholder. -/
class ToValue (α : Type) where
  toValue : α → Value

export ToValue (toValue)

instance : ToValue Value := ⟨id⟩

instance : ToValue Int8 := ⟨fun n => .integer n.toInt64⟩

instance : ToValue Int16 := ⟨fun n => .integer n.toInt64⟩

instance : ToValue Int32 := ⟨fun n => .integer n.toInt64⟩

instance : ToValue Int64 := ⟨.integer⟩

instance : ToValue UInt8 := ⟨fun n => .integer (.ofNat n.toNat)⟩

instance : ToValue UInt16 := ⟨fun n => .integer (.ofNat n.toNat)⟩

instance : ToValue UInt32 := ⟨fun n => .integer (.ofNat n.toNat)⟩

/-- Booleans are stored as the integers 0 and 1. -/
instance : ToValue Bool := ⟨fun b => .integer (if b then 1 else 0)⟩

instance : ToValue Binary32 := ⟨fun x => .real x.widen⟩

instance : ToValue Binary64 := ⟨.real⟩

instance : ToValue String := ⟨.text⟩

instance {α : Type} [ToValue α] : ToValue (Option α) := ⟨fun v => v.elim .null toValue⟩

end BoundSql

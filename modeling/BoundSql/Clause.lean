import BoundSql.Comparator
import BoundSql.Row

/-!
# Clauses

A `Clause` is one part of a statement before any SQL text is written; a statement is a list of
clauses in the order in which SQL wants them.  Columns to select or return, the two sides of a
join and the column of a condition are SQL text and stand as they are; tables and the columns of a
row to write are names.
-/

namespace BoundSql

/-- A comparison of a column with a bound value. -/
structure Condition where
  column : String
  comparator : Comparator
  value : Value
deriving DecidableEq

/-- One part of a statement. -/
inductive Clause
  | select (table : String) (columns : List String)
  | insertInto (table : String) (row : Row)
  | update (table : String) (row : Row)
  | deleteFrom (table : String)
  | innerJoin (table tableColumn column : String)
  /-- A filter by one condition. -/
  | filter (condition : Condition)
  /-- A filter by several conditions, all of which have to hold. -/
  | filterAll (conditions : List Condition)
  | returning (columns : List String)
  /-- A part of a kind that is not known. -/
  | unknown
deriving DecidableEq

/-- The condition that a column equals a value. -/
def Condition.equal (column : String) (value : Value) : Condition := ⟨column, .equal, value⟩

/-- Equality with floating point numbers compared as numbers. -/
def Condition.agrees (a b : Condition) : Bool :=
  a.column == b.column && a.comparator = b.comparator && a.value.agrees b.value

namespace Clause

/-- The kind of the clause. -/
def kind : Clause → Kind
  | .select .. => .select
  | .insertInto .. => .insertInto
  | .update .. => .update
  | .deleteFrom .. => .deleteFrom
  | .innerJoin .. => .innerJoin
  | .filter .. => .filter
  | .filterAll .. => .filterAll
  | .returning .. => .returning
  | .unknown => .unknown

/-- Equality that leaves the order of written columns aside and compares numbers as numbers. -/
def agrees : Clause → Clause → Bool
  | .select t cs, .select t' cs' => t == t' && cs == cs'
  | .insertInto t r, .insertInto t' r' => t == t' && r.agrees r'
  | .update t r, .update t' r' => t == t' && r.agrees r'
  | .deleteFrom t, .deleteFrom t' => t == t'
  | .innerJoin t a b, .innerJoin t' a' b' => t == t' && a == a' && b == b'
  | .filter c, .filter c' => c.agrees c'
  | .filterAll cs, .filterAll cs' => cs.isEqv cs' Condition.agrees
  | .returning cs, .returning cs' => cs == cs'
  | .unknown, .unknown => true
  | _, _ => false

/-- Whether two clause lists agree clause by clause. -/
def listAgrees (cs ds : List Clause) : Bool := cs.isEqv ds agrees

end Clause

end BoundSql

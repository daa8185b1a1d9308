import BoundSql.Execution.Operations

/-!
# Steps of an execution

A `Step` is one operation with all that it needs, so that a whole run is a list of steps.  The
type of what is read off a row is a parameter.
-/

namespace BoundSql

/-- A member of a batch. -/
inductive BatchItem
  /-- A statement as it is. -/
  | statement (s : Statement)
  /-- Clauses that are compiled first. -/
  | clauses (cs : List Clause)

/-- The statement of a member of a batch. -/
def BatchItem.compile : BatchItem → Except Fault Statement
  | .statement s => .ok s
  | .clauses cs => Statement.ofClauses cs

/-- One operation with its arguments. -/
inductive Step (ρ : Type)
  /-- Compile clauses and execute nothing. -/
  | write (clauses : List Clause)
  | run (clauses : List Clause)
  | get (read : Row → Except Fault ρ) (clauses : List Clause)
  | getAll (read : Row → Except Fault ρ) (clauses : List Clause)
  | batch (items : List BatchItem)

/-- What a step answers. -/
inductive StepAnswer (ρ : Type)
  | done
  | written (s : Statement)
  | first (row : Option ρ)
  | all (rows : List ρ)
  | each (rows : List (List Row))

namespace Step

variable {ρ : Type}

/-- Executes one step. -/
def execute (settings : Settings) (step : Step ρ) (script : Script) :
    Outcome Fault (StepAnswer ρ) :=
  match step with
  | .write clauses => .silent (.written <$> Statement.ofClauses clauses) script
  | .run clauses => (settings.run clauses script).withResult ((fun _ => .done) <$> ·)
  | .get read clauses => (settings.getWith read clauses script).withResult (.first <$> ·)
  | .getAll read clauses => (settings.getAllWith read clauses script).withResult (.all <$> ·)
  | .batch items =>
    match items.mapM BatchItem.compile with
    | .error fault => .silent (.error fault) script
    | .ok statements => (settings.batch statements script).withResult (.each <$> ·)

/-- Executes steps one after the other. -/
def executeAll (settings : Settings) (steps : List (Step ρ)) (script : Script) :
    List (Report Fault (StepAnswer ρ)) :=
  BoundSql.executeAll (execute settings) steps script

end Step

end BoundSql

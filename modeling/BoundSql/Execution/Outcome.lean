import BoundSql.Execution.Trace

/-!
# Outcomes

An `Outcome` is what an execution against a script leaves behind: its result, its trace and the
rest of the script.  A result can be worked on further without touching trace and script, and a
list of steps is executed one after the other on what the step before has left of the script.
-/

namespace BoundSql

/-- Result, trace and rest of the script of an execution. -/
structure Outcome (ε α : Type) where
  result : Except ε α
  trace : List Entry
  rest : Script

namespace Outcome

variable {ε ε' α β : Type}

/-- The outcome of an execution that does not reach the database. -/
def silent (result : Except ε α) (script : Script) : Outcome ε α := ⟨result, [], script⟩

/-- The outcome with a result that is made of the old one. -/
def withResult (o : Outcome ε α) (f : Except ε α → Except ε' β) : Outcome ε' β :=
  ⟨f o.result, o.trace, o.rest⟩

/-- The outcome whose value is worked on, which may fail. -/
def andThen (o : Outcome ε α) (f : α → Except ε β) : Outcome ε β := o.withResult (· >>= f)

/-- The outcome whose error is wrapped. -/
def mapError (o : Outcome ε α) (f : ε → ε') : Outcome ε' α := o.withResult (·.mapError f)

end Outcome

/-- The result of one step and what could be observed of it. -/
structure Report (ε α : Type) where
  result : Except ε α
  trace : List Entry

/-- Executes steps one after the other. -/
def executeAll {σ ε α : Type} (step : σ → Script → Outcome ε α) :
    List σ → Script → List (Report ε α)
  | [], _ => []
  | s :: steps, script =>
    let o := step s script
    ⟨o.result, o.trace⟩ :: executeAll step steps o.rest

end BoundSql

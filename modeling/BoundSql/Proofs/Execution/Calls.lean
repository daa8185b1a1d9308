import BoundSql.Execution.Operations
import BoundSql.Proofs.Statement.Written

/-!
# Calls to the database

A call takes one response.  Its caller sees a fault, if the call exceeds the limit or fails, and
else what the response holds (`Response.result_eq`).  The trace of a call announces the statements
of the call, records it and, if there is a fault, says so (`Settings.callTrace`); what is read off
the response does not matter to it (`Settings.perform_eq_withResult`).
-/

namespace BoundSql

/-! ## Responses -/

namespace Response

/-- The response that fails at once. -/
def failing (fault : Fault) : Response := { nothing with failure := some fault }

/-- The fault that the caller sees, if the call fails or exceeds the limit. -/
def fault? (limit : Option Duration) (r : Response) : Option Fault :=
  match limit with
  | some d => if d < r.delay then some (.timeout d) else r.failure
  | none => r.failure

theorem result_eq {α : Type} (limit : Option Duration) (content : Response → α) (r : Response) :
    r.result limit content = match r.fault? limit with
      | some fault => .error fault
      | none => .ok (content r) := by
  unfold result fault?
  cases limit with
  | none => rfl
  | some d =>
    by_cases h : d < r.delay
    · simp only [if_pos h]
    · cases r.failure <;> simp [h]

end Response

/-! ## Calls in traces -/

/-- The calls that are recorded in a trace, in order. -/
def recordedCalls (trace : List Entry) : List Call :=
  trace.filterMap fun
    | .call c => some c
    | .log _ => none

theorem recordedCalls_append (first second : List Entry) :
    recordedCalls (first ++ second) = recordedCalls first ++ recordedCalls second :=
  List.filterMap_append

theorem recordedCalls_map_log {α : Type} (xs : List α) (event : α → Event) :
    recordedCalls (xs.map fun x => .log (event x)) = [] := by
  unfold recordedCalls
  rw [List.filterMap_map]
  exact List.filterMap_none xs

/-- The calls to the database that can be observed. -/
def Outcome.calls {ε α : Type} (o : Outcome ε α) : List Call := recordedCalls o.trace

/-- The calls to the database that can be observed of a step. -/
def Report.calls {ε α : Type} (r : Report ε α) : List Call := recordedCalls r.trace

/-- The calls that the steps of a run have made, in order. -/
def callsOf {ε α : Type} (reports : List (Report ε α)) : List Call := reports.flatMap Report.calls

/-- The statements that a call hands to the database. -/
def Call.statements : Call → List Statement
  | .get s => [s]
  | .run s => [s]
  | .batch ss => ss

namespace Settings

variable {α : Type} (settings : Settings) (script : Script)

/-- What can be observed of a call: an event for each statement, the call, and another event if the
caller sees a fault. -/
def callTrace (op : Operation) (call : Call) (fault? : Option Fault) : List Entry :=
  call.statements.map (fun s => .log (settings.announce op s)) ++
    .call call :: fault?.toList.map fun fault => .log (.failed op fault.message)

theorem recordedCalls_callTrace (op : Operation) (call : Call) (fault? : Option Fault) :
    recordedCalls (settings.callTrace op call fault?) = [call] := by
  have events (ss : List Statement) :
      recordedCalls (ss.map fun s => .log (settings.announce op s)) = [] :=
    recordedCalls_map_log ss _
  unfold callTrace
  rw [recordedCalls_append, events]
  exact congrArg (call :: ·) (recordedCalls_map_log fault?.toList _)

theorem perform_eq (op : Operation) (call : Call) (content : Response → α) :
    settings.perform op call.statements call content script =
      ⟨script.next.result settings.timeout content,
        settings.callTrace op call (script.next.fault? settings.timeout), script.rest⟩ := by
  simp only [perform, callTrace, Response.result_eq]
  cases script.next.fault? settings.timeout <;> rfl

/-- What is read off the response does not matter to the trace of a call. -/
theorem perform_eq_withResult (op : Operation) (ss : List Statement) (call : Call)
    (content : Response → α) :
    settings.perform op ss call content script =
      (settings.perform op ss call id script).withResult (content <$> ·) := by
  simp only [perform, Response.result_eq, Outcome.withResult]
  cases script.next.fault? settings.timeout <;> rfl

theorem performClauses_eq (op : Operation) {cs : List Clause} (h : ∀ c ∈ cs, c.fault? = none)
    (call : Statement → Call) (content : Response → α) :
    settings.performClauses op cs call content script =
      (settings.perform op [.written cs] (call (.written cs)) id script).withResult
        (content <$> ·) := by
  have hs := Statement.ofClauses_eq_ok_iff.2 ⟨h, rfl⟩
  unfold performClauses
  rw [hs]
  exact settings.perform_eq_withResult script op _ _ content

end Settings

end BoundSql

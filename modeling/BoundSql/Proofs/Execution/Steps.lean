import BoundSql.Execution.Step
import BoundSql.Proofs.Execution.Exchange

/-!
# What steps ask of the database

When its clauses are compiled, a step answers the statement or makes one call and reads the answer
off the response (`Step.intent`), and so it is an exchange (`Step.execute_eq`).  In a run each step
that is not refused and that is no mere compilation makes one call, with the statements that have
been compiled and nothing else; no step sees more of the run than the one response to its call
(`Step.executeAll_answered_in_order`).
-/

namespace BoundSql

namespace Step

variable {ρ : Type}

/-- What a step is about to do when its clauses are compiled. -/
inductive Intent (ρ : Type)
  /-- The statement is the answer. -/
  | answer (s : Statement)
  /-- A call is made for an operation, and the answer is read off the response. -/
  | ask (op : Operation) (call : Call) (read : Response → Except Fault (StepAnswer ρ))

/-- Reads the first row, if there is one. -/
def readFirst (read : Row → Except Fault ρ) (r : Response) : Except Fault (StepAnswer ρ) :=
  .first <$> (match r.rows.first? with
    | some row => some <$> read row
    | none => .ok none)

/-- Reads all rows. -/
def readAll (read : Row → Except Fault ρ) (r : Response) : Except Fault (StepAnswer ρ) :=
  .all <$> r.rows.toList.mapM read

/-- What a step is about to do, unless its clauses are refused. -/
def intent : Step ρ → Except Fault (Intent ρ)
  | .write cs => .answer <$> Statement.ofClauses cs
  | .run cs => (fun s => .ask .run (.run s) fun _ => .ok .done) <$> Statement.ofClauses cs
  | .get read cs => (fun s => .ask .get (.get s) (readFirst read)) <$> Statement.ofClauses cs
  | .getAll read cs => (fun s => .ask .getAll (.get s) (readAll read)) <$> Statement.ofClauses cs
  | .batch items =>
    (fun ss => .ask .batch (.batch ss) fun r => .ok (.each r.batch)) <$>
      items.mapM fun
        | .statement s => .ok s
        | .clauses cs => Statement.ofClauses cs

theorem intent_batch (items : List BatchItem) :
    (batch items : Step ρ).intent =
      (fun ss => .ask .batch (.batch ss) fun r => .ok (.each r.batch)) <$>
        items.mapM BatchItem.compile := rfl

/-- A step as an exchange. -/
def exchange (step : Step ρ) : Exchange Fault (StepAnswer ρ) :=
  match step.intent with
  | .error fault => .settled (.error fault)
  | .ok (.answer s) => .settled (.ok (.written s))
  | .ok (.ask op call read) => .asks op call fun seen => (seen >>= read, [])

/-! ## Steps are exchanges -/

theorem withResult_andThen {ε ε' α β γ : Type} (o : Outcome ε α) (f : α → Except ε β)
    (g : Except ε β → Except ε' γ) :
    (o.andThen f).withResult g = o.withResult fun result => g (result >>= f) := rfl

/-- A call whose result is worked on is an exchange, if the work hands on faults and reads nothing
but what the response holds. -/
theorem perform_withResult_eq {α β : Type} (settings : Settings) (op : Operation) (call : Call)
    {content : Response → β} {work : Except Fault β → Except Fault α}
    {read : Response → Except Fault α} (failed : ∀ fault, work (.error fault) = .error fault)
    (answered : ∀ r, work (.ok (content r)) = read r.atOnce) (script : Script) :
    (settings.perform op call.statements call content script).withResult work =
      (Exchange.asks op call fun seen => (seen >>= read, [])).execute settings script := by
  rw [Settings.perform_eq]
  simp only [Outcome.withResult, Exchange.execute, Exchange.report, Response.result_eq,
    List.map_nil, List.append_nil]
  cases script.next.fault? settings.timeout with
  | some fault =>
    simp only [failed]
    rfl
  | none =>
    simp only [answered]
    rfl

/-- Every step is an exchange with the database. -/
theorem execute_eq (settings : Settings) (step : Step ρ) (script : Script) :
    step.execute settings script = step.exchange.execute settings script := by
  cases step with
  | write cs =>
    simp only [execute, exchange, intent]
    cases Statement.ofClauses cs <;> rfl
  | run cs =>
    simp only [execute, Settings.run, Settings.performClauses, exchange, intent]
    cases Statement.ofClauses cs with
    | error fault => rfl
    | ok s =>
      exact perform_withResult_eq settings .run (.run s) (fun _ => rfl) (fun _ => rfl) script
  | get read cs =>
    simp only [execute, Settings.getWith, Settings.performClauses, exchange, intent]
    cases Statement.ofClauses cs with
    | error fault => rfl
    | ok s =>
      rw [withResult_andThen]
      exact perform_withResult_eq settings .get (.get s) (fun _ => rfl) (fun _ => rfl) script
  | getAll read cs =>
    simp only [execute, Settings.getAllWith, Settings.performClauses, exchange, intent]
    cases Statement.ofClauses cs with
    | error fault => rfl
    | ok s =>
      rw [withResult_andThen]
      exact perform_withResult_eq settings .getAll (.get s) (fun _ => rfl) (fun _ => rfl) script
  | batch items =>
    simp only [execute, Settings.batch, exchange, intent_batch]
    cases items.mapM BatchItem.compile with
    | error fault => rfl
    | ok ss =>
      exact perform_withResult_eq settings .batch (.batch ss) (fun _ => rfl) (fun _ => rfl) script

/-! ## Runs -/

theorem executeAll_eq (settings : Settings) (steps : List (Step ρ)) (script : Script) :
    executeAll settings steps script =
      Exchange.executeAll settings (steps.map exchange) script :=
  Exchange.executeAll_map settings (execute_eq settings) steps script

/-- Let `k` calls have been made when the turn of a step comes.  If its clauses are refused, or if it
only compiles them, the step says so, leaves no trace and takes no response.  Otherwise one event for
each of the statements that it has compiled tells what it does, how many values are bound and what is
logged of its text; the step calls the database with these statements and with nothing else, and one
warning follows if the response with the number `k` is a failure or comes late, and nothing otherwise.
The answer is that failure or is read off that response, which the step takes.  On its own, with that
response alone, the step has the same report. -/
theorem executeAll_answered_in_order (settings : Settings) (before : List (Step ρ)) (step : Step ρ)
    (after : List (Step ρ)) (script : Script) :
    let k := (callsOf (executeAll settings before script)).length
    let response := script.getD k .nothing
    ∃ report : Report Fault (StepAnswer ρ),
      executeAll settings (before ++ step :: after) script =
        executeAll settings before script ++
          report :: executeAll settings after (script.drop (k + report.calls.length)) ∧
      (executeAll settings before script).length = before.length ∧
      executeAll settings [step] [response] = [report] ∧
      match step.intent with
      | .error fault => report = ⟨.error fault, []⟩
      | .ok (.answer s) => report = ⟨.ok (.written s), []⟩
      | .ok (.ask op call read) =>
        report.result = (response.fault? settings.timeout).elim (read response.atOnce) .error ∧
        report.trace =
          call.statements.map (fun s =>
              .log (.statement settings.logLevel op (.ofSql s.sql) s.params.length
                (settings.loggedSql s.sql))) ++
            .call call :: (response.fault? settings.timeout).toList.map (fun fault =>
              .log (.failed op fault.message)) ∧
        ∀ message, (Event.failed op message).level = .warn := by
  intro k response
  -- The calls of the steps do not depend on the answers, so `k` counts them without the script.
  have hk : k = ((before.map exchange).flatMap Exchange.calls).length := by
    rw [← Exchange.callsOf_executeAll settings _ script, ← executeAll_eq]
  refine ⟨step.exchange.report settings response, ?_, ?_, ?_, ?_⟩
  · rw [executeAll_eq, executeAll_eq, executeAll_eq, List.map_append, List.map_cons,
      Exchange.executeAll_append_cons, ← hk, Exchange.calls_report]
  · rw [executeAll_eq, Exchange.length_executeAll, List.length_map]
  · rw [executeAll_eq]
    rfl
  · unfold exchange
    match step.intent with
    | .error fault => rfl
    | .ok (.answer s) => rfl
    | .ok (.ask op call read) =>
      refine ⟨?_, List.append_nil _, fun _ => rfl⟩
      show response.result settings.timeout Response.atOnce >>= read = _
      rw [Response.result_eq]
      cases response.fault? settings.timeout <;> rfl

end Step

end BoundSql

import BoundSql.Proofs.Execution.Calls

/-!
# Exchanges with the database

A step of an execution settles its result on its own, or it makes one call, which it chooses before
it sees an answer, and concludes from what it sees of the response (`Exchange`).  So the steps of a
run take the responses one after the other.  The report of a step depends on the step and on one
response alone, and that response has the place in the script that the call has among the calls of
the run (`Exchange.executeAll_append_cons`).
-/

namespace BoundSql

/-- The same response without a delay. -/
def Response.atOnce (r : Response) : Response := { r with delay := ⟨0⟩ }

/-- What a step does, chosen before any answer is seen. -/
inductive Exchange (ε α : Type)
  /-- The result is settled without a call. -/
  | settled (result : Except ε α)
  /-- A call is made; what is seen of its response gives the result, and may give more to log. -/
  | asks (op : Operation) (call : Call)
    (conclude : Except Fault Response → Except ε α × List Event)

namespace Exchange

variable {ε α : Type}

/-- The call of an exchange, if it makes one. -/
def calls : Exchange ε α → List Call
  | .settled _ => []
  | .asks _ call _ => [call]

/-- The report of an exchange whose call, if it makes one, takes the response `r`. -/
def report (settings : Settings) (r : Response) : Exchange ε α → Report ε α
  | .settled result => ⟨result, []⟩
  | .asks op call conclude =>
    let conclusion := conclude (r.result settings.timeout Response.atOnce)
    ⟨conclusion.1,
      settings.callTrace op call (r.fault? settings.timeout) ++ conclusion.2.map fun e => .log e⟩

/-- Executes an exchange. -/
def execute (settings : Settings) (e : Exchange ε α) (script : Script) : Outcome ε α :=
  let report := e.report settings script.next
  ⟨report.result, report.trace, script.drop e.calls.length⟩

/-- Executes exchanges one after the other. -/
def executeAll (settings : Settings) (es : List (Exchange ε α)) (script : Script) :
    List (Report ε α) :=
  BoundSql.executeAll (execute settings) es script

/-! ## One exchange -/

variable (settings : Settings)

theorem calls_report (e : Exchange ε α) (r : Response) :
    (e.report settings r).calls = e.calls := by
  cases e with
  | settled result => rfl
  | asks op call conclude =>
    have more (events : List Event) : recordedCalls (events.map fun e => .log e) = [] :=
      recordedCalls_map_log events id
    simp only [Report.calls, report, calls, recordedCalls_append, settings.recordedCalls_callTrace,
      more, List.append_nil]

/-! ## Runs -/

/-- A run of steps that are exchanges is a run of exchanges. -/
theorem executeAll_map {σ : Type} {step : σ → Script → Outcome ε α} {exchange : σ → Exchange ε α}
    (h : ∀ s script, step s script = (exchange s).execute settings script) (steps : List σ)
    (script : Script) :
    BoundSql.executeAll step steps script = executeAll settings (steps.map exchange) script := by
  induction steps generalizing script with
  | nil => rfl
  | cons s steps ih =>
    have later := ih (step s script).rest
    unfold BoundSql.executeAll
    simp only [later]
    rw [h]
    rfl

theorem executeAll_cons (e : Exchange ε α) (es : List (Exchange ε α)) (script : Script) :
    executeAll settings (e :: es) script =
      e.report settings script.next :: executeAll settings es (script.drop e.calls.length) := rfl

theorem length_executeAll (es : List (Exchange ε α)) (script : Script) :
    (executeAll settings es script).length = es.length := by
  induction es generalizing script with
  | nil => rfl
  | cons e es ih => rw [executeAll_cons, List.length_cons, ih, List.length_cons]

/-- A run makes the calls of its exchanges, whatever the database answers. -/
theorem callsOf_executeAll (es : List (Exchange ε α)) (script : Script) :
    callsOf (executeAll settings es script) = es.flatMap calls := by
  induction es generalizing script with
  | nil => rfl
  | cons e es ih =>
    have later := ih (script.drop e.calls.length)
    unfold callsOf at later ⊢
    rw [executeAll_cons, List.flatMap_cons, calls_report, later, List.flatMap_cons]

/-- Two runs one after the other are one run, in which the second takes the responses that the
first has left. -/
theorem executeAll_append (before after : List (Exchange ε α)) (script : Script) :
    executeAll settings (before ++ after) script =
      executeAll settings before script ++
        executeAll settings after (script.drop (before.flatMap calls).length) := by
  -- Over any script, as each step of the first run hands on less of it.
  induction before generalizing script with
  | nil => rfl
  | cons e before ih =>
    rw [List.cons_append, executeAll_cons, ih, executeAll_cons, List.drop_drop, List.flatMap_cons,
      List.length_append, List.cons_append]

theorem next_drop (script : Script) (k : Nat) :
    Script.next (script.drop k) = script.getD k .nothing := by
  unfold Script.next
  rw [List.headD_eq_head?_getD, List.head?_drop, List.getD_eq_getElem?_getD]

/-- The call of an exchange in a run is answered by the response that has the place of the call
among the calls of the run, and the run goes on with the response after it. -/
theorem executeAll_append_cons (before : List (Exchange ε α)) (e : Exchange ε α)
    (after : List (Exchange ε α)) (script : Script) :
    executeAll settings (before ++ e :: after) script =
      executeAll settings before script ++
        e.report settings (script.getD (before.flatMap calls).length .nothing) ::
          executeAll settings after
            (script.drop ((before.flatMap calls).length + e.calls.length)) := by
  rw [executeAll_append, executeAll_cons, next_drop, List.drop_drop]

end Exchange

end BoundSql

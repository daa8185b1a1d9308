import BoundSql.Proofs.Execution.Steps

/-!
# Limits of time

With a limit of time a call that takes longer has neither its answer nor its failure, but it has
been made and has taken its response.  So a run with a limit differs from the same run without one
in the reports of these calls alone (`LocalTimeouts`), whatever the steps of the run are, as long as
they are exchanges that hand on what they see of a late call (`localTimeouts_of_exchange`).
-/

namespace BoundSql

/-- Lets a call take any time. -/
def Settings.withoutTimeout (s : Settings) : Settings := { s with timeout := none }

/-- The report of a step with a limit of time is its report `free` without one, unless its call
takes longer: then the step fails with `late`, and its statements have been announced and its call
has been made as without the limit. -/
def Report.LimitedBy {ε α : Type} (settings : Settings) (limit : Duration) (late : ε)
    (delay : Duration) (free limited : Report ε α) : Prop :=
  if free.calls ≠ [] ∧ limit < delay then
    limited.result = .error late ∧ ∃ op call,
      settings.callTrace op call none <+: free.trace ∧
      limited.trace = settings.callTrace op call (some (.timeout limit))
  else limited = free

/-- What a limit of time does to runs, where `late` is the error of a step whose call takes
longer. -/
structure LocalTimeouts {σ ε α : Type} (run : Settings → List σ → Script → List (Report ε α))
    (late : Duration → ε) : Prop where
  /-- There is one report for each step. -/
  length : ∀ settings steps script, (run settings steps script).length = steps.length
  /-- Without a limit it does not matter how long calls take. -/
  atOnce : ∀ settings steps script,
    run (Settings.withoutTimeout settings) steps (script.map Response.atOnce) =
      run settings.withoutTimeout steps script
  /-- At any place of a run, the limit shows in the report of the step only if its own call takes
  longer, and both runs go on with the same responses. -/
  report : ∀ (settings : Settings) (limit : Duration) (before : List σ) (step : σ) (after : List σ)
    (script : Script),
    let free := run settings.withoutTimeout
    let limited := run (settings.withTimeout limit)
    let k := (callsOf (free before script)).length
    ∃ r r' : Report ε α,
      let rest := script.drop (k + r.calls.length)
      free (before ++ step :: after) script = free before script ++ r :: free after rest ∧
      limited (before ++ step :: after) script = limited before script ++ r' :: limited after rest ∧
      r.LimitedBy settings limit (late limit) (script.getD k .nothing).delay r'

namespace Response

theorem result_withTimeout_of_not_lt {α : Type} {limit : Duration} {r : Response}
    (h : ¬ limit < r.delay) (content : Response → α) :
    r.result (some limit) content = r.result none content := by
  simp only [result, if_neg h]

theorem fault?_withTimeout_of_not_lt {limit : Duration} {r : Response} (h : ¬ limit < r.delay) :
    r.fault? (some limit) = r.fault? none := by
  simp only [fault?, if_neg h]

theorem fault?_of_lt {limit : Duration} {r : Response} (h : limit < r.delay) :
    r.fault? (some limit) = some (.timeout limit) := by
  simp only [fault?, if_pos h]

end Response

/-- The trace of a call that fails is the trace of the call without the failure, and one event. -/
theorem Settings.callTrace_none_prefix (settings : Settings) (op : Operation) (call : Call)
    (fault? : Option Fault) :
    settings.callTrace op call none <+: settings.callTrace op call fault? := by
  unfold callTrace
  rw [List.prefix_append_right_inj]
  exact List.prefix_append [Entry.call call] _

namespace Exchange

variable {ε α : Type}

/-- An exchange whose late call fails with `late` and gives nothing more to log. -/
def HandsOnTimeouts (late : Duration → ε) : Exchange ε α → Prop
  | .settled _ => True
  | .asks _ _ conclude => ∀ limit, conclude (.error (.timeout limit)) = (.error (late limit), [])

variable (settings : Settings)

theorem report_limitedBy {late : Duration → ε} {e : Exchange ε α} (handsOn : e.HandsOnTimeouts late)
    (limit : Duration) (r : Response) :
    (e.report settings.withoutTimeout r).LimitedBy settings limit (late limit) r.delay
      (e.report (settings.withTimeout limit) r) := by
  unfold Report.LimitedBy
  -- The limit does not decide whether there is a call, so the condition is one on the exchange.
  rw [calls_report]
  split_ifs with h
  · obtain ⟨asked, exceeded⟩ := h
    cases e with
    | settled result => exact absurd rfl asked
    | asks op call conclude =>
      have late : (asks op call conclude).report (settings.withTimeout limit) r =
          ⟨.error (late limit), settings.callTrace op call (some (.timeout limit))⟩ := by
        have seen : r.result (some limit) Response.atOnce = .error (.timeout limit) := by
          rw [Response.result_eq, Response.fault?_of_lt exceeded]
        simp only [report, Settings.withTimeout, seen, Response.fault?_of_lt exceeded,
          handsOn limit, List.map_nil, List.append_nil]
        rfl
      rw [late]
      exact ⟨rfl, op, call, (settings.callTrace_none_prefix op call _).trans
        (List.prefix_append _ _), rfl⟩
  · cases e with
    | settled result => rfl
    | asks op call conclude =>
      have inTime : ¬ limit < r.delay := fun exceeded => h ⟨List.cons_ne_nil _ _, exceeded⟩
      simp only [report, Settings.withTimeout, Settings.withoutTimeout,
        Response.result_withTimeout_of_not_lt inTime, Response.fault?_withTimeout_of_not_lt inTime]
      rfl

theorem report_withoutTimeout_atOnce (e : Exchange ε α) (r : Response) :
    e.report settings.withoutTimeout r.atOnce = e.report settings.withoutTimeout r := by
  cases e with
  | settled result => rfl
  | asks op call conclude =>
    have seen : r.atOnce.result none Response.atOnce = r.result none Response.atOnce := rfl
    have fault : r.atOnce.fault? none = r.fault? none := rfl
    simp only [report, Settings.withoutTimeout, seen, fault]

theorem executeAll_withoutTimeout_atOnce (es : List (Exchange ε α)) (script : Script) :
    executeAll settings.withoutTimeout es (script.map Response.atOnce) =
      executeAll settings.withoutTimeout es script := by
  induction es generalizing script with
  | nil => rfl
  | cons e es ih =>
    have next : Script.next (script.map Response.atOnce) = (Script.next script).atOnce := by
      cases script <;> rfl
    rw [executeAll_cons, executeAll_cons, next, report_withoutTimeout_atOnce, ← List.map_drop, ih]

end Exchange

/-- A limit of time changes the runs of steps that hand on timeouts only where calls take longer. -/
theorem localTimeouts_of_exchange {σ ε α : Type}
    {run : Settings → List σ → Script → List (Report ε α)} {exchange : σ → Exchange ε α}
    (eq : ∀ settings steps script,
      run settings steps script = Exchange.executeAll settings (steps.map exchange) script)
    {late : Duration → ε} (handsOn : ∀ s, (exchange s).HandsOnTimeouts late) :
    LocalTimeouts run late where
  length settings steps script := by
    rw [eq, Exchange.length_executeAll, List.length_map]
  atOnce settings steps script := by
    rw [eq, eq, Exchange.executeAll_withoutTimeout_atOnce]
  report settings limit before step after script := by
    intro free limited k
    have hk : k = ((before.map exchange).flatMap Exchange.calls).length := by
      rw [← Exchange.callsOf_executeAll settings.withoutTimeout _ script, ← eq]
    have position (s : Settings) : run s (before ++ step :: after) script =
        run s before script ++ (exchange step).report s (script.getD k .nothing) ::
          run s after (script.drop (k + (exchange step).calls.length)) := by
      rw [eq, eq, eq, List.map_append, List.map_cons, Exchange.executeAll_append_cons, ← hk]
    refine ⟨(exchange step).report settings.withoutTimeout (script.getD k .nothing),
      (exchange step).report (settings.withTimeout limit) (script.getD k .nothing), ?_, ?_,
      Exchange.report_limitedBy settings (handsOn step) limit _⟩
    · rw [Exchange.calls_report]
      exact position _
    · rw [Exchange.calls_report]
      exact position _

theorem Step.handsOnTimeouts {ρ : Type} (step : Step ρ) :
    step.exchange.HandsOnTimeouts Fault.timeout := by
  unfold exchange
  match step.intent with
  | .error fault => trivial
  | .ok (.answer s) => trivial
  | .ok (.ask op call read) => exact fun limit => rfl

end BoundSql

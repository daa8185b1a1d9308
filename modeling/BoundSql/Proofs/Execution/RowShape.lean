import BoundSql.Proofs.Execution.Steps
import Mathlib.Data.List.Forall2

/-!
# Shapes of answers

An answer that holds no record may be nothing or an empty list, and one that holds a single record
may be in a list or not.  Whoever looks at an answer sees the list of its records and nothing else
(`Rows.first?_eq`, `Rows.size_eq`, `Rows.isEmpty_iff`).  An exchange that concludes the same from
responses with the same records has the same report for both, and so has a run of such exchanges
(`Exchange.executeAll_of_sameRows`).
-/

namespace BoundSql

namespace Rows

theorem first?_eq (r : Rows) : r.first? = r.toList.head? := by
  cases r <;> rfl

theorem size_eq (r : Rows) : r.size = r.toList.length := by
  cases r <;> rfl

theorem isEmpty_iff (r : Rows) : r.isEmpty = true ↔ r.toList = [] := by
  rw [isEmpty, size_eq, beq_iff_eq, List.length_eq_zero_iff]

end Rows

namespace Response

/-- Two responses that differ at most in the shape in which they hold the records of a query. -/
structure SameRows (r r' : Response) : Prop where
  delay : r.delay = r'.delay
  failure : r.failure = r'.failure
  rows : r.rows.toList = r'.rows.toList
  batch : r.batch = r'.batch

variable {r r' : Response}

theorem SameRows.first? (h : SameRows r r') : r.rows.first? = r'.rows.first? := by
  rw [Rows.first?_eq, Rows.first?_eq, h.rows]

theorem SameRows.atOnce (h : SameRows r r') : SameRows r.atOnce r'.atOnce :=
  ⟨rfl, h.failure, h.rows, h.batch⟩

theorem SameRows.fault? (h : SameRows r r') (limit : Option Duration) :
    r.fault? limit = r'.fault? limit := by
  unfold Response.fault?
  rw [h.delay, h.failure]

end Response

namespace Exchange

variable {ε α : Type}

/-- An exchange concludes the same from responses that hold the same records. -/
def IgnoresShape : Exchange ε α → Prop
  | .settled _ => True
  | .asks _ _ conclude =>
    ∀ r r' : Response, r.SameRows r' → conclude (.ok r) = conclude (.ok r')

theorem report_of_sameRows (settings : Settings) {e : Exchange ε α} (he : e.IgnoresShape)
    {r r' : Response} (h : r.SameRows r') : e.report settings r = e.report settings r' := by
  cases e with
  | settled result => rfl
  | asks op call conclude =>
    have concluded := he _ _ h.atOnce
    simp only [report, Response.result_eq, h.fault?]
    cases r'.fault? settings.timeout with
    | some fault => rfl
    | none => simp only [concluded]

theorem sameRows_next {script script' : Script} (h : List.Forall₂ Response.SameRows script script') :
    script.next.SameRows script'.next := by
  cases h with
  | nil => exact ⟨rfl, rfl, rfl, rfl⟩
  | cons first _ => exact first

theorem executeAll_of_sameRows (settings : Settings) {es : List (Exchange ε α)}
    (hes : ∀ e ∈ es, e.IgnoresShape) {script script' : Script}
    (h : List.Forall₂ Response.SameRows script script') :
    executeAll settings es script = executeAll settings es script' := by
  -- Over any two scripts, as both hand on what the exchange has left of them.
  induction es generalizing script script' with
  | nil => rfl
  | cons e es ih =>
    rw [List.forall_mem_cons] at hes
    rw [executeAll_cons, executeAll_cons, report_of_sameRows settings hes.1 (sameRows_next h),
      ih hes.2 (List.forall₂_drop e.calls.length h)]

end Exchange

/-! ## Steps -/

namespace Step

variable {ρ : Type}

theorem exists_of_map_eq_ok {ε α β : Type} {f : α → β} {x : Except ε α} {b : β}
    (h : f <$> x = .ok b) : ∃ a, f a = b := by
  cases x with
  | error e => exact nomatch h
  | ok a => exact ⟨a, Except.ok.inj h⟩

/-- A step reads the same off responses that hold the same records. -/
theorem read_of_sameRows {step : Step ρ} {op : Operation} {call : Call}
    {read : Response → Except Fault (StepAnswer ρ)} (h : step.intent = .ok (.ask op call read))
    {r r' : Response} (same : r.SameRows r') : read r = read r' := by
  cases step with
  | write cs =>
    obtain ⟨s, written⟩ := exists_of_map_eq_ok h
    exact nomatch written
  | run cs =>
    obtain ⟨s, asked⟩ := exists_of_map_eq_ok h
    cases asked
    rfl
  | get read cs =>
    obtain ⟨s, asked⟩ := exists_of_map_eq_ok h
    cases asked
    unfold readFirst
    rw [same.first?]
  | getAll read cs =>
    obtain ⟨s, asked⟩ := exists_of_map_eq_ok h
    cases asked
    unfold readAll
    rw [same.rows]
  | batch items =>
    obtain ⟨statements, asked⟩ := exists_of_map_eq_ok h
    cases asked
    simp only [same.batch]

theorem ignoresShape (step : Step ρ) : step.exchange.IgnoresShape := by
  unfold exchange
  match h : step.intent with
  | .error fault => trivial
  | .ok (.answer s) => trivial
  | .ok (.ask op call read) =>
    intro r r' same
    exact congrArg (·, []) (read_of_sameRows h same)

theorem executeAll_of_sameRows (settings : Settings) (steps : List (Step ρ))
    {script script' : Script} (h : List.Forall₂ Response.SameRows script script') :
    executeAll settings steps script = executeAll settings steps script' := by
  rw [executeAll_eq, executeAll_eq]
  exact Exchange.executeAll_of_sameRows settings
    (List.forall_mem_map.2 fun step _ => step.ignoresShape) h

end Step

end BoundSql

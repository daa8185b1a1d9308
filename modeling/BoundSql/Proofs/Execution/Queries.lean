import BoundSql.Proofs.Execution.RowShape

/-!
# The first row and all rows

The same clauses can be executed for the first row or for all rows.  Both make the same call and see
the same answer (`Settings.answer`, `Settings.performClauses_get`); one reads the head of its records
and the other reads all of them until one cannot be read (`mapM_eq_error_iff`).  So what is read of
the first row is the head of what is read of all, and the events of the two differ in nothing but
the name of the operation (`Entry.withOperation`).
-/

namespace BoundSql

/-! ## Reading one after the other -/

section Reading

variable {ε α β : Type} {read : α → Except ε β}

theorem mapM_cons_eq (a : α) (as : List α) :
    (a :: as).mapM read = match read a with
      | .error e => .error e
      | .ok b => (as.mapM read).map (b :: ·) := by
  rw [List.mapM_cons]
  cases read a with
  | error e => rfl
  | ok b => cases as.mapM read <;> rfl

/-- All are read when each of them is. -/
theorem mapM_eq_ok_iff {as : List α} {bs : List β} :
    as.mapM read = .ok bs ↔ List.Forall₂ (fun a b => read a = .ok b) as bs := by
  induction as generalizing bs with
  | nil => cases bs <;> simp [pure, Except.pure]
  | cons a as ih =>
    rw [mapM_cons_eq, List.forall₂_cons_left_iff]
    cases read a with
    | error e => simp
    | ok b =>
      simp only [← ih]
      cases as.mapM read <;> simp [Except.map, eq_comm]

/-- What is left out before reading can be left out after it. -/
theorem mapM_filter {as : List α} {bs : List β} (h : as.mapM read = .ok bs) {p : α → Bool}
    {q : β → Bool} (agree : ∀ a b, read a = .ok b → (p a = true ↔ q b = true)) :
    (as.filter p).mapM read = .ok (bs.filter q) :=
  mapM_eq_ok_iff.2 (List.rel_filter (fun a b hab => agree a b hab) (mapM_eq_ok_iff.1 h))

/-- The first that cannot be read decides. -/
theorem mapM_eq_error_iff {as : List α} {e : ε} :
    as.mapM read = .error e ↔ ∃ before bad after, as = before ++ bad :: after ∧
      (∀ a ∈ before, ∃ b, read a = .ok b) ∧ read bad = .error e := by
  induction as with
  | nil => simp [pure, Except.pure]
  | cons a as ih =>
    rw [mapM_cons_eq]
    cases ha : read a with
    | error e' =>
      constructor
      · rintro ⟨⟩
        exact ⟨[], a, as, rfl, List.forall_mem_nil _, ha⟩
      · rintro ⟨before, bad, after, split, earlier, hbad⟩
        cases before with
        | nil =>
          obtain ⟨rfl, -⟩ := List.cons.inj split
          rw [ha] at hbad
          cases hbad
          rfl
        | cons b before =>
          obtain ⟨rfl, -⟩ := List.cons.inj split
          obtain ⟨b, hb⟩ := earlier a List.mem_cons_self
          exact nomatch ha.symm.trans hb
    | ok b =>
      have rest : (as.mapM read).map (b :: ·) = .error e ↔ as.mapM read = .error e := by
        cases as.mapM read <;> simp [Except.map]
      refine rest.trans (ih.trans ?_)
      constructor
      · rintro ⟨before, bad, after, rfl, earlier, hbad⟩
        exact ⟨a :: before, bad, after, rfl, List.forall_mem_cons.2 ⟨⟨b, ha⟩, earlier⟩, hbad⟩
      · rintro ⟨before, bad, after, split, earlier, hbad⟩
        cases before with
        | nil =>
          obtain ⟨rfl, -⟩ := List.cons.inj split
          exact nomatch ha.symm.trans hbad
        | cons c before =>
          obtain ⟨-, rfl⟩ := List.cons.inj split
          exact ⟨before, bad, after, rfl, (List.forall_mem_cons.1 earlier).2, hbad⟩

/-- Reads the head of a list, if there is one. -/
def readHead (read : α → Except ε β) (as : List α) : Except ε (Option β) :=
  match as.head? with
  | some a => some <$> read a
  | none => .ok none

theorem readHead_cons_eq_ok_iff {a : α} {as : List α} {b? : Option β} :
    readHead read (a :: as) = .ok b? ↔ ∃ b, read a = .ok b ∧ b? = some b := by
  simp only [readHead, List.head?_cons]
  cases read a <;> simp [eq_comm]

theorem readHead_cons_eq_error_iff {a : α} {as : List α} {e : ε} :
    readHead read (a :: as) = .error e ↔ read a = .error e := by
  simp only [readHead, List.head?_cons]
  cases read a <;> simp

theorem readHead_of_mapM {as : List α} {bs : List β} (h : as.mapM read = .ok bs) :
    readHead read as = .ok bs.head? := by
  cases mapM_eq_ok_iff.1 h with
  | nil => rfl
  | cons first _ => exact readHead_cons_eq_ok_iff.2 ⟨_, first, rfl⟩

theorem mapM_of_readHead {as : List α} {e : ε} (h : readHead read as = .error e) :
    as.mapM read = .error e := by
  cases as with
  | nil => exact nomatch h
  | cons a as =>
    rw [mapM_cons_eq, readHead_cons_eq_error_iff.1 h]

/-- If not all can be read though the head can, one after the head is the first that cannot. -/
theorem exists_of_mapM_of_readHead {as : List α} {e : ε} {b? : Option β}
    (hall : as.mapM read = .error e) (hhead : readHead read as = .ok b?) :
    ∃ a before bad after b, as = a :: (before ++ bad :: after) ∧ read a = .ok b ∧ b? = some b ∧
      (∀ a ∈ before, ∃ b, read a = .ok b) ∧ read bad = .error e := by
  obtain ⟨before, bad, after, rfl, earlier, hbad⟩ := mapM_eq_error_iff.1 hall
  cases before with
  | nil =>
    obtain ⟨b, hb, -⟩ := readHead_cons_eq_ok_iff.1 hhead
    exact nomatch hbad.symm.trans hb
  | cons a before =>
    obtain ⟨b, hb, rfl⟩ := readHead_cons_eq_ok_iff.1 hhead
    exact ⟨a, before, bad, after, b, rfl, hb, rfl, (List.forall_mem_cons.1 earlier).2, hbad⟩

end Reading

/-! ## Events under another name -/

/-- The event with another operation, if it names one. -/
def Event.withOperation (op : Operation) : Event → Event
  | .statement level _ kind count sql => .statement level op kind count sql
  | .failed _ error => .failed op error
  | .explained error code => .explained error code

/-- The entry with another operation, if it names one. -/
def Entry.withOperation (op : Operation) : Entry → Entry
  | .call c => .call c
  | .log e => .log (e.withOperation op)

namespace Settings

variable {α : Type} (settings : Settings)

theorem map_withOperation_callTrace (op op' : Operation) (call : Call) (fault? : Option Fault) :
    (settings.callTrace op call fault?).map (Entry.withOperation op') =
      settings.callTrace op' call fault? := by
  simp only [callTrace, List.map_append, List.map_cons, List.map_map]
  rfl

/-! ## Queries -/

/-- The records that a query sees. -/
def answer (clauses : List Clause) (script : Script) : Except Fault (List Row) :=
  match Statement.ofClauses clauses with
  | .error fault => .error fault
  | .ok _ => script.next.result settings.timeout fun r => r.rows.toList

/-- What can be observed of a query. -/
def queryTrace (op : Operation) (clauses : List Clause) (script : Script) : List Entry :=
  match Statement.ofClauses clauses with
  | .error _ => []
  | .ok s => settings.callTrace op (.get s) (script.next.fault? settings.timeout)

theorem map_withOperation_queryTrace (op op' : Operation) (clauses : List Clause)
    (script : Script) :
    (settings.queryTrace op clauses script).map (Entry.withOperation op') =
      settings.queryTrace op' clauses script := by
  unfold queryTrace
  cases Statement.ofClauses clauses with
  | error fault => rfl
  | ok s => exact settings.map_withOperation_callTrace op op' (.get s) _

theorem recordedCalls_queryTrace (op : Operation) (clauses : List Clause) (script : Script) :
    recordedCalls (settings.queryTrace op clauses script) =
      match Statement.ofClauses clauses with
      | .error _ => []
      | .ok s => [.get s] := by
  unfold queryTrace
  cases Statement.ofClauses clauses with
  | error fault => rfl
  | ok s => exact settings.recordedCalls_callTrace op (.get s) _

theorem trace_getWith (read : Row → Except Fault α) (clauses : List Clause) (script : Script) :
    (settings.getWith read clauses script).trace = settings.queryTrace .get clauses script := by
  unfold getWith performClauses queryTrace
  cases Statement.ofClauses clauses with
  | error fault => rfl
  | ok s => exact congrArg Outcome.trace (settings.perform_eq script .get (.get s) Response.rows)

theorem trace_getAllWith (read : Row → Except Fault α) (clauses : List Clause) (script : Script) :
    (settings.getAllWith read clauses script).trace =
      settings.queryTrace .getAll clauses script := by
  unfold getAllWith performClauses queryTrace
  cases Statement.ofClauses clauses with
  | error fault => rfl
  | ok s =>
    exact congrArg Outcome.trace (settings.perform_eq script .getAll (.get s) Response.rows)

theorem result_getWith (read : Row → Except Fault α) (clauses : List Clause) (script : Script) :
    (settings.getWith read clauses script).result =
      settings.answer clauses script >>= readHead read := by
  unfold getWith performClauses answer
  cases Statement.ofClauses clauses with
  | error fault => rfl
  | ok s =>
    simp only [Outcome.andThen, Outcome.withResult, perform, Response.result_eq]
    cases script.next.fault? settings.timeout with
    | some fault => rfl
    | none =>
      simp only [bind, Except.bind, Rows.first?_eq, readHead]
      cases script.next.rows.toList.head? <;> rfl

theorem result_getAllWith (read : Row → Except Fault α) (clauses : List Clause)
    (script : Script) :
    (settings.getAllWith read clauses script).result =
      settings.answer clauses script >>= fun rows => rows.mapM read := by
  unfold getAllWith performClauses answer
  cases Statement.ofClauses clauses with
  | error fault => rfl
  | ok s =>
    simp only [Outcome.andThen, Outcome.withResult, perform, Response.result_eq]
    cases script.next.fault? settings.timeout <;> rfl

/-- A query sees records when its clauses are a statement and the call succeeds. -/
theorem answer_eq_ok_iff {clauses : List Clause} {script : Script} {rows : List Row} :
    settings.answer clauses script = .ok rows ↔
      (∃ s, Statement.ofClauses clauses = .ok s) ∧
        script.next.fault? settings.timeout = none ∧ script.next.rows.toList = rows := by
  unfold answer
  cases Statement.ofClauses clauses with
  | error fault => simp
  | ok s =>
    rw [Response.result_eq]
    cases script.next.fault? settings.timeout <;> simp

/-! ## The first row is the head of all rows -/

variable {settings} {read : Row → Except Fault α} {clauses : List Clause} {script : Script}

theorem getWith_of_getAllWith {as : List α}
    (h : (settings.getAllWith read clauses script).result = .ok as) :
    (settings.getWith read clauses script).result = .ok as.head? := by
  rw [result_getAllWith] at h
  rw [result_getWith]
  cases seen : settings.answer clauses script with
  | error fault =>
    rw [seen] at h
    exact nomatch h
  | ok rows =>
    rw [seen] at h
    exact readHead_of_mapM h

theorem getAllWith_of_getWith {fault : Fault}
    (h : (settings.getWith read clauses script).result = .error fault) :
    (settings.getAllWith read clauses script).result = .error fault := by
  rw [result_getWith] at h
  rw [result_getAllWith]
  cases seen : settings.answer clauses script with
  | error fault' =>
    rw [seen] at h
    cases h
    rfl
  | ok rows =>
    rw [seen] at h
    exact mapM_of_readHead h

/-- If only the query for all rows fails, a row after the first cannot be read. -/
theorem exists_of_getAllWith_of_getWith {fault : Fault} {a? : Option α}
    (hall : (settings.getAllWith read clauses script).result = .error fault)
    (hfirst : (settings.getWith read clauses script).result = .ok a?) :
    (∃ s, Statement.ofClauses clauses = .ok s) ∧
      script.next.fault? settings.timeout = none ∧
      ∃ row before bad after a, script.next.rows.toList = row :: (before ++ bad :: after) ∧
        read row = .ok a ∧ a? = some a ∧ (∀ r ∈ before, ∃ b, read r = .ok b) ∧
        read bad = .error fault := by
  rw [result_getAllWith] at hall
  rw [result_getWith] at hfirst
  cases seen : settings.answer clauses script with
  | error fault' =>
    rw [seen] at hfirst
    exact nomatch hfirst
  | ok rows =>
    rw [seen] at hall hfirst
    obtain ⟨compiled, answered, rfl⟩ := settings.answer_eq_ok_iff.1 seen
    exact ⟨compiled, answered, exists_of_mapM_of_readHead hall hfirst⟩

theorem calls_getWith :
    (settings.getWith read clauses script).calls =
      (settings.getAllWith read clauses script).calls := by
  have first := settings.recordedCalls_queryTrace .get clauses script
  have all := settings.recordedCalls_queryTrace .getAll clauses script
  rw [← trace_getWith settings read] at first
  rw [← trace_getAllWith settings read] at all
  exact first.trans all.symm

end Settings

end BoundSql

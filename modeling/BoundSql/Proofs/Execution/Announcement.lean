import BoundSql.Proofs.Execution.Steps
import BoundSql.Proofs.Statement.Unambiguous

/-!
# What is announced of a statement

The event before a call tells from the SQL text what the statement does and how many values are
bound to it.  The text of a clause begins with a keyword and a blank (`Clause.keyword_prefix_text`),
so the first word of a statement is the keyword of its first clause whatever names, columns and
values follow (`Statement.Kind.ofSql_written`), and each condition and each column that is written
binds one value (`Clause.length_params`).  So the event describes the clauses
(`Step.announces_clauses`); it is made of the whole text, also where only a part of it is logged.
-/

namespace BoundSql

/-! ## The first word -/

/-- A word with a blank after it is the first word of a text. -/
theorem Text.firstWord_append_cons {word : List Char} {b : Char} (nonempty : word ≠ [])
    (inside : ∀ c ∈ word, isBlank c = false) (blank : isBlank b = true) (s : List Char) :
    firstWord (word ++ b :: s) = word := by
  have start : (word ++ b :: s).dropWhile isBlank = word ++ b :: s := by
    obtain ⟨c, word, rfl⟩ := List.exists_cons_of_ne_nil nonempty
    exact List.dropWhile_cons_of_neg (by simp [inside c List.mem_cons_self])
  unfold firstWord
  rw [start, List.takeWhile_append_of_pos fun c hc => by simp [inside c hc],
    List.takeWhile_cons_of_neg (by simp [blank]), List.append_nil]

namespace Clause

/-- The word that a clause of a kind begins with. -/
def keyword : Kind → String
  | .select => "SELECT"
  | .insertInto => "INSERT"
  | .update => "UPDATE"
  | .deleteFrom => "DELETE"
  | .innerJoin => "INNER"
  | .filter => "WHERE"
  | .filterAll => "WHERE"
  | .returning => "RETURNING"
  | .unknown => ""

/-- What a statement does whose first clause has a given kind. -/
def Kind.does : Kind → Statement.Kind
  | .select => .select
  | .insertInto => .insert
  | .update => .update
  | .deleteFrom => .delete
  | _ => .other

theorem ofKeyword_keyword (k : Kind) :
    Statement.Kind.ofKeyword (.ofList ((keyword k).toList.map Char.toUpper)) = k.does := by
  cases k <;> decide

theorem not_isBlank_keyword (k : Kind) : ∀ c ∈ (keyword k).toList, Text.isBlank c = false := by
  have spelled : (keyword k).toList.all (fun c => !Text.isBlank c) = true := by
    cases k <;> rfl
  intro c hc
  have outside := List.all_eq_true.1 spelled c hc
  rwa [Bool.not_eq_true'] at outside

theorem keyword_prefix_opening {k : Kind} (known : k ≠ .unknown) :
    (keyword k).toList ≠ [] ∧ (keyword k).toList ++ [' '] <+: (opening k).toList := by
  cases k with
  | unknown => exact absurd rfl known
  | _ => decide

/-- A clause that is not refused begins with its keyword and a blank. -/
theorem keyword_prefix_text {c : Clause} (h : c.fault? = none) :
    (keyword c.kind).toList ≠ [] ∧ ∃ rest, c.text = (keyword c.kind).toList ++ ' ' :: rest := by
  have known : c.kind ≠ .unknown := by
    cases c <;> simp [kind, fault?] at h ⊢
  obtain ⟨nonempty, begins⟩ := keyword_prefix_opening known
  obtain ⟨rest, hrest⟩ := begins.trans c.opening_prefix_text
  refine ⟨nonempty, rest, ?_⟩
  rw [← hrest, List.append_assoc, List.singleton_append]

end Clause

namespace Statement.Kind

/-- What the statement of a list of clauses does, told from the first clause. -/
def ofClauses : List Clause → Kind
  | [] => .other
  | c :: _ => c.kind.does

/-- The kind that is told from the text of a statement is that of its first clause. -/
theorem ofSql_written {cs : List Clause} (h : ∀ c ∈ cs, c.fault? = none) :
    ofSql (written cs).sql = ofClauses cs := by
  have text : (written cs).sql.toList = Clause.listText cs := String.toList_ofList
  unfold ofSql
  rw [text]
  cases cs with
  | nil => decide
  | cons c cs =>
    obtain ⟨nonempty, rest, begins⟩ := Clause.keyword_prefix_text (h c List.mem_cons_self)
    have first : Text.firstWord (Clause.listText (c :: cs)) = (Clause.keyword c.kind).toList := by
      rw [Clause.listText, begins, List.append_assoc, List.cons_append]
      exact Text.firstWord_append_cons nonempty (Clause.not_isBlank_keyword c.kind) (by decide) _
    rw [first]
    exact Clause.ofKeyword_keyword c.kind

end Statement.Kind

/-! ## The number of values -/

namespace Clause

/-- The conditions of a clause. -/
def conditions : Clause → List Condition
  | .filter c => [c]
  | .filterAll cs => cs
  | _ => []

/-- The columns that a clause writes, with their values. -/
def assignments : Clause → List (String × Value)
  | .insertInto _ row => row.entries
  | .update _ row => row.entries
  | _ => []

theorem length_params (c : Clause) :
    c.params.length = c.conditions.length + c.assignments.length := by
  cases c <;> simp [params, conditions, assignments, Row.values]

theorem length_listParams (cs : List Clause) :
    (listParams cs).length =
      (cs.flatMap conditions).length + (cs.flatMap assignments).length := by
  induction cs with
  | nil => rfl
  | cons c cs ih =>
    unfold listParams at ih ⊢
    simp only [List.flatMap_cons, List.length_append, ih, length_params]
    omega

end Clause

/-! ## Announcements -/

namespace Settings

/-- The event that describes the clauses of a statement with the given SQL text. -/
def description (settings : Settings) (op : Operation) (cs : List Clause) (sql : String) : Event :=
  .statement settings.logLevel op (.ofClauses cs)
    ((cs.flatMap Clause.conditions).length + (cs.flatMap Clause.assignments).length)
    (settings.loggedSql sql)

theorem announce_eq_description {cs : List Clause} {s : Statement}
    (h : Statement.ofClauses cs = .ok s) (settings : Settings) (op : Operation) :
    settings.announce op s = settings.description op cs s.sql := by
  obtain ⟨sound, rfl⟩ := Statement.ofClauses_eq_ok_iff.1 h
  have count : (Statement.written cs).params.length = _ := Clause.length_listParams cs
  rw [announce, description, Statement.Kind.ofSql_written sound, count]

end Settings

namespace Step

variable {ρ : Type}

/-- A step executes a list of clauses for an operation, after the given statements: it executes them
alone, or in a batch whose other members are not refused. -/
inductive Executes (cs : List Clause) : Step ρ → Operation → List Statement → Prop
  | run : Executes cs (.run cs) .run []
  | get (read : Row → Except Fault ρ) : Executes cs (.get read cs) .get []
  | getAll (read : Row → Except Fault ρ) : Executes cs (.getAll read cs) .getAll []
  | batch {before after : List BatchItem} {earlier later : List Statement}
    (hbefore : before.mapM BatchItem.compile = .ok earlier)
    (hafter : after.mapM BatchItem.compile = .ok later) :
    Executes cs (.batch (before ++ .clauses cs :: after)) .batch earlier

/-- The call of a step that executes clauses is made with their statement in its place. -/
theorem Executes.intent_eq {cs : List Clause} {step : Step ρ} {op : Operation}
    {earlier : List Statement} (executes : Executes cs step op earlier) {s : Statement}
    (h : Statement.ofClauses cs = .ok s) :
    ∃ call later read, step.intent = .ok (.ask op call read) ∧
      call.statements = earlier ++ s :: later := by
  cases executes with
  | run => exact ⟨.run s, [], _, by rw [intent, h]; rfl, rfl⟩
  | get read => exact ⟨.get s, [], _, by rw [intent, h]; rfl, rfl⟩
  | getAll read => exact ⟨.get s, [], _, by rw [intent, h]; rfl, rfl⟩
  | @batch before after earlier later hbefore hafter =>
    have compiled : (before ++ .clauses cs :: after).mapM BatchItem.compile =
        .ok (earlier ++ s :: later) := by
      rw [List.mapM_append, hbefore, List.mapM_cons, BatchItem.compile, h, hafter]
      rfl
    exact ⟨.batch (earlier ++ s :: later), later, _, by rw [intent_batch, compiled]; rfl, rfl⟩

/-- Whatever operation executes clauses, and whatever the settings, the names, the columns and the
values are, an event before the call describes the clauses: what the first of them does, and how many
conditions and written columns there are. -/
theorem announces_clauses (settings : Settings) (script : Script) {cs : List Clause} {s : Statement}
    (h : Statement.ofClauses cs = .ok s) {step : Step ρ} {op : Operation}
    {earlier : List Statement} (executes : Executes cs step op earlier) :
    ∃ later call failure, call.statements = earlier ++ s :: later ∧
      (step.execute settings script).trace =
        earlier.map (fun t => .log (settings.announce op t)) ++
          .log (settings.description op cs s.sql) ::
            (later.map (fun t => .log (settings.announce op t)) ++ .call call :: failure) := by
  obtain ⟨call, later, read, intends, statements⟩ := executes.intent_eq h
  have trace : (step.execute settings script).trace =
      settings.callTrace op call (script.next.fault? settings.timeout) := by
    rw [execute_eq, exchange, intends]
    exact List.append_nil _
  refine ⟨later, call, (script.next.fault? settings.timeout).toList.map fun fault =>
    .log (.failed op fault.message), statements, ?_⟩
  rw [trace, Settings.callTrace, statements, List.map_append, List.map_cons,
    Settings.announce_eq_description h, List.append_assoc, List.cons_append]

/-- The table that is updated has the words of another statement in its name, and no byte of the text
is logged. -/
theorem announces_clauses_keyword_in_name :
    let cs : List Clause := [.update "\n DELETE FROM " (.ofList [("SELECT ?", .null)]),
      .filterAll [⟨"INSERT", .like, .text "?"⟩, ⟨"b", .equal, .integer 1⟩]]
    Statement.ofClauses cs = .ok (.written cs) ∧ Executes cs (.run cs : Step Row) .run [] ∧
      ∃ rest, (execute (Settings.default.withMaxSqlBytes 0) (.run cs : Step Row) []).trace =
        .log (.statement .debug .run .update 3 "...") :: rest := by
  intro cs
  have compiled : Statement.ofClauses cs = .ok (.written cs) :=
    Statement.ofClauses_eq_ok_iff.2 ⟨by decide, rfl⟩
  have described : (Settings.default.withMaxSqlBytes 0).description .run cs (Statement.written cs).sql =
      .statement .debug .run .update 3 "..." := by
    unfold Settings.description Settings.loggedSql Statement.written
    rw [String.toList_ofList]
    decide +kernel
  obtain ⟨later, call, failure, -, trace⟩ :=
    announces_clauses (Settings.default.withMaxSqlBytes 0) [] compiled (.run (ρ := Row))
  rw [described] at trace
  exact ⟨compiled, .run, _, trace⟩

end Step

end BoundSql

import BoundSql.Proofs.Account.Requests
import BoundSql.Proofs.Execution.Queries

/-!
# Queries for records

A query reads its rows as rows, users, sessions or keys.  Whatever it reads them as, what it says of
the first row is the head of what it says of all rows, as long as all of them can be read
(`get_is_head_of_getAll`); and a row that cannot be read as a record of one of the four types is at
fault for a column.
-/

namespace BoundSql.Account

/-- When all rows are read, the first row is the head of them, and when the first row cannot be had,
all rows cannot for the same reason.  If only the query for all rows fails, the call succeeded and
the first row can be read, but a later one cannot, and the first of these is the reason.  Both
queries hand the same statement to the database, and their traces differ in the name of the
operation.  What cannot be read as a row, a user, a session or a key is so for a column. -/
theorem get_is_head_of_getAll (settings : Settings) (clauses : List Clause) (script : Script) :
    (∀ (α : Type) [FromRow α],
      let first : Outcome Fault (Option α) := settings.get clauses script
      let all : Outcome Fault (List α) := settings.getAll clauses script
      (∀ as, all.result = .ok as → first.result = .ok as.head?) ∧
      (∀ fault, first.result = .error fault → all.result = .error fault) ∧
      (∀ fault a?, all.result = .error fault → first.result = .ok a? →
        (∃ s, Statement.ofClauses clauses = .ok s) ∧
        script.next.fault? settings.timeout = none ∧
        ∃ row before bad after, ∃ a : α,
          script.next.rows.toList = row :: (before ++ bad :: after) ∧
          fromRow row = .ok a ∧ a? = some a ∧
          (∀ r ∈ before, ∃ b : α, fromRow r = .ok b) ∧
          (fromRow bad : Except Fault α) = .error fault) ∧
      first.calls = all.calls ∧
      all.trace = first.trace.map (Entry.withOperation .getAll) ∧
      first.trace = all.trace.map (Entry.withOperation .get)) ∧
    ∀ row : Row, Row.FailsAtColumn (fromRow row : Except Fault Row) ∧
      Row.FailsAtColumn (fromRow row : Except Fault User) ∧
      Row.FailsAtColumn (fromRow row : Except Fault Session) ∧
      Row.FailsAtColumn (fromRow row : Except Fault Key) := by
  constructor
  · intro α _ first all
    have tfirst : first.trace = settings.queryTrace .get clauses script :=
      settings.trace_getWith fromRow clauses script
    have tall : all.trace = settings.queryTrace .getAll clauses script :=
      settings.trace_getAllWith fromRow clauses script
    refine ⟨fun as => Settings.getWith_of_getAllWith, fun fault => Settings.getAllWith_of_getWith,
      fun fault a? => Settings.exists_of_getAllWith_of_getWith, Settings.calls_getWith, ?_, ?_⟩
    · rw [tall, tfirst, settings.map_withOperation_queryTrace]
    · rw [tall, tfirst, settings.map_withOperation_queryTrace]
  · intro row
    exact ⟨Row.failsAtColumn_ok row, Plan.failsAtColumn_user row, Plan.failsAtColumn_session row,
      Plan.failsAtColumn_key row⟩

/-- The third of three keys has no user. -/
theorem get_is_head_of_getAll_keys :
    let row : Row := (Key.mk "k1" "u1" true none none).toRow
    let bad : Row := .ofList [("id", .text "k3"), ("user_id", .null)]
    let script : Script := [⟨⟨0⟩, none, .many [row, row, bad], []⟩]
    let clauses := Store.selectWhere "k" "user_id" "u1"
    (Settings.default.getAll clauses script : Outcome Fault (List Key)).result =
        .error (.column "user_id" (.expected .text .null)) ∧
      (Settings.default.get clauses script : Outcome Fault (Option Key)).result =
        .ok (some ⟨"k1", "u1", true, none, none⟩) ∧
      ∃ first before undecodable after, ∃ k : Key,
        [row, row, bad] = first :: (before ++ undecodable :: after) ∧ fromRow first = .ok k ∧
        (fromRow undecodable : Except Fault Key) =
          .error (.column "user_id" (.expected .text .null)) := by
  intro row bad script clauses
  have all : (Settings.default.getAll clauses script : Outcome Fault (List Key)).result =
      .error (.column "user_id" (.expected .text .null)) := by decide +kernel
  have first : (Settings.default.get clauses script : Outcome Fault (Option Key)).result =
      .ok (some ⟨"k1", "u1", true, none, none⟩) := by decide +kernel
  obtain ⟨-, -, row', before, bad', after, k, rows, hk, -, -, hbad⟩ :=
    ((get_is_head_of_getAll Settings.default clauses script).1 Key).2.2.1 _ _ all first
  exact ⟨all, first, row', before, bad', after, k, rows, hk, hbad⟩

end BoundSql.Account

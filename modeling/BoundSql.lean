import BoundSql.Account.Config
import BoundSql.Account.Request
import BoundSql.Clause.Json
import BoundSql.Execution.Step
import BoundSql.Proofs.Comparator
import BoundSql.Proofs.Statement.Pieces
import BoundSql.Proofs.Statement.Written
import BoundSql.Proofs.Statement.Marks
import BoundSql.Proofs.Execution.Calls
import BoundSql.Proofs.Execution.Exchange
import BoundSql.Proofs.Execution.Steps
import BoundSql.Proofs.Execution.Timeouts
import BoundSql.Proofs.Execution.RowShape
import BoundSql.Proofs.Execution.Queries
import BoundSql.Proofs.Account.Plan
import BoundSql.Proofs.Statement.Unambiguous
import BoundSql.Proofs.Statement.Assignment
import BoundSql.Proofs.Account.Binding
import BoundSql.Proofs.Account.Uniqueness
import BoundSql.Proofs.Statement.Shape
import BoundSql.Proofs.Statement.Composition
import BoundSql.Proofs.Statement.Agreement
import BoundSql.Proofs.Statement.Placeholders
import BoundSql.Proofs.Statement.Quoting
import BoundSql.Proofs.Execution.Abridgement
import BoundSql.Proofs.Value.Equality
import BoundSql.Proofs.Statement.Deletion
import BoundSql.Proofs.Row
import BoundSql.Proofs.Row.Writing
import BoundSql.Proofs.Account.Requests
import BoundSql.Proofs.Account.Meaning
import BoundSql.Proofs.Account.Arguments
import BoundSql.Proofs.Account.Joined
import BoundSql.Proofs.Account.Storage
import BoundSql.Proofs.Account.RowShape
import BoundSql.Proofs.Account.Queries
import BoundSql.Proofs.Account.Creation
import BoundSql.Proofs.Account.Identity
import BoundSql.Proofs.Account.PrimaryKeys
import BoundSql.Proofs.Json.Integer
import BoundSql.Proofs.Json.Lexing
import BoundSql.Proofs.Json.Document
import BoundSql.Proofs.Json.Text
import BoundSql.Proofs.Clause.Json
import BoundSql.Proofs.Clause.Spelling
import BoundSql.Proofs.Clause.Comparison
import BoundSql.Proofs.Clause.Repetition
import BoundSql.Proofs.Clause.Literal
import BoundSql.Proofs.Execution.Announcement
import BoundSql.Proofs.Row.Typed
import BoundSql.Proofs.Toml.Document
import BoundSql.Proofs.Toml.Text
import BoundSql.Proofs.Toml.Strings
import BoundSql.Proofs.Toml.Extension
import BoundSql.Proofs.Account.Config

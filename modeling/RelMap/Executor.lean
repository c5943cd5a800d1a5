-- SUMMARY: Rows, replies, and the one request that an operation makes of a database.
import RelMap.Error
import RelMap.Sql.Piece

/-!
# Executors

An `Executor` runs statements and replies. A `Plan` is an operation that has been
prepared: it is done already, or it makes one request and goes on with the reply.
No plan makes more than one request.
-/
namespace RelMap

/-! ## Rows -/

/-- One scanned row, in the order of the selected columns. -/
structure Row where
  values : List Value

namespace Row

/-- The number of columns. -/
def size (r : Row) : Nat := r.values.length

/-- The value in a column. -/
def get? (r : Row) (i : Nat) : Option Value := r.values[i]?

/-- Move the value out of a column and leave null there. A column that is not in
the row is null. -/
def take (r : Row) (i : Nat) : Value × Row :=
  (r.values.getD i .null, ⟨r.values.set i .null⟩)

end Row

/-- The rows of a query, in order. Fetching one can fail. -/
abbrev Rows := List (Result Row)

namespace Rows

/-- The first row, if there is one. -/
def first : Rows → Result (Option Row)
  | [] => .ok none
  | .ok row :: _ => .ok (some row)
  | .error e :: _ => .error e

end Rows

/-- The reply to a statement that returns no rows. -/
structure ExecReply where
  rowsAffected : Nat
  lastInsertId : Option FixedInt

/-! ## Executors and plans -/

/-- Runs statements against a database. -/
structure Executor where
  exec : Statement → Result ExecReply
  query : Statement → Result Rows

/-- A request to an executor. -/
inductive Call where
  | exec (statement : Statement)
  | query (statement : Statement)

/-- An operation that makes one request at most. -/
inductive Plan (α : Type) where
  | done (a : α)
  | exec (statement : Statement) (next : Result ExecReply → α)
  | query (statement : Statement) (next : Result Rows → α)

namespace Plan

/-- The outcome of a plan with an executor. -/
def run (executor : Executor) : Plan α → α
  | .done a => a
  | .exec statement next => next (executor.exec statement)
  | .query statement next => next (executor.query statement)

/-- The requests that a plan makes. -/
def calls : Plan α → List Call
  | .done _ => []
  | .exec statement _ => [.exec statement]
  | .query statement _ => [.query statement]

end Plan

end RelMap

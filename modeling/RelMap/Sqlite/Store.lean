-- SUMMARY: The calls of the SQLite driver, and what each leaves of the database and the connection.
import RelMap.Sqlite.Connection
import RelMap.Sqlite.Storage

/-!
# Calls of the driver

SQLite itself is left open: a `Command` is a text together with what SQLite makes of it. The
driver prepares the text, binds the arguments, has the statement run and replies. All three
calls can insert rows, but only `exec` reports a row id.
-/
namespace RelMap.Sqlite

/-- What SQLite did when it ran a statement. -/
structure Execution (σ : Type) where
  /-- The database after it, also when it failed half way. -/
  database : σ
  effect : Effect := ⟨0, []⟩
  /-- The rows that it returned. -/
  rows : List (List Storage) := []
  failure : Option Error := none

/-- The result of a call, unless the statement failed. -/
def Execution.result (e : Execution σ) (a : α) : Result α :=
  match e.failure with
  | none => .ok a
  | some error => .error error

/-- The text of a statement, and what SQLite makes of it. -/
structure Command (σ : Type) where
  sql : String
  /-- Prepare the text on a database. What was prepared runs with bound arguments. -/
  prepare : σ → Result (List Storage → Execution σ)

/-- A database, with the connection that leads to it. -/
structure Store (σ : Type) where
  connection : Connection := {}
  database : σ

/-- A database with a connection that nothing was inserted through. -/
def Store.opened (database : σ) : Store σ := { database }

namespace Store

/-- Prepare a statement, bind its arguments and run it. -/
def execute (s : Store σ) (c : Command σ) (args : List Value) : Result (Execution σ) :=
  match c.prepare s.database with
  | .error e => .error e
  | .ok run =>
    match Storage.bindAll args with
    | .error e => .error e.toError
    | .ok xs => .ok (run xs)

/-- The store after a statement that ran. -/
def after (s : Store σ) (e : Execution σ) : Store σ := ⟨s.connection.after e.effect, e.database⟩

/-- Run a statement that returns no rows. -/
def exec (s : Store σ) (c : Command σ) (args : List Value) : Result ExecReply × Store σ :=
  match s.execute c args with
  | .error e => (.error e, s)
  | .ok e =>
    let (reply, connection) := s.connection.report c.sql e.effect
    (e.result reply, ⟨connection, e.database⟩)

/-- Run a statement for its rows. -/
def query (s : Store σ) (c : Command σ) (args : List Value) : Result Rows × Store σ :=
  match s.execute c args with
  | .error e => (.error e, s)
  | .ok e => (e.result (e.rows.map fun row => .ok ⟨row.map Storage.load⟩), s.after e)

/-- Run a text of any number of statements. -/
def batch (s : Store σ) (c : Command σ) : Result Unit × Store σ :=
  match s.execute c [] with
  | .error e => (.error e, s)
  | .ok e => (e.result (), s.after e)

end Store

/-! ## Runs -/

/-- A call of the driver. -/
inductive Act (σ : Type) where
  | exec (c : Command σ) (args : List Value)
  | query (c : Command σ) (args : List Value)
  | batch (c : Command σ)

/-- The response to a call. -/
inductive Response where
  | executed (result : Result ExecReply)
  | queried (result : Result Rows)
  | batched (result : Result Unit)

namespace Store

/-- The response to a call, and the store after it. -/
def step (s : Store σ) : Act σ → Response × Store σ
  | .exec c args => let (result, s) := s.exec c args; (.executed result, s)
  | .query c args => let (result, s) := s.query c args; (.queried result, s)
  | .batch c => let (result, s) := s.batch c; (.batched result, s)

/-- What a call did to the database: nothing, if nothing was run. -/
def effect (s : Store σ) : Act σ → Effect
  | .exec c args => (s.execute c args).toOption.elim ⟨0, []⟩ Execution.effect
  | .query c args => (s.execute c args).toOption.elim ⟨0, []⟩ Execution.effect
  | .batch c => (s.execute c []).toOption.elim ⟨0, []⟩ Execution.effect

/-- The store after calls. -/
def run (s : Store σ) (acts : List (Act σ)) : Store σ := acts.foldl (fun s a => (s.step a).2) s

/-- What is seen of calls, one by one. -/
def observe (see : Store σ → Act σ → α) : Store σ → List (Act σ) → List α
  | _, [] => []
  | s, a :: acts => see s a :: observe see (s.step a).2 acts

/-- The responses to calls. -/
def responses : Store σ → List (Act σ) → List Response := observe fun s a => (s.step a).1

/-- What calls did to the database. -/
def effects : Store σ → List (Act σ) → List Effect := observe effect

end Store

end RelMap.Sqlite

-- SUMMARY: Connections to SQLite: where they lead, and what they report of a statement.
import RelMap.Executor
import RelMap.Text.Blank
import RelMap.Url

/-!
# SQLite connections

A connection remembers the row id of the last row that was inserted through it, and
reports it for statements that read as an INSERT.
-/
namespace RelMap.Sqlite

/-- The path that a connection URL names: a file, or `:memory:`. -/
def pathOf (url : String) : Result String :=
  match Url.ofText url with
  | .error e => .error (.driverMessage e.message)
  | .ok u =>
    if u.scheme = "sqlite" then .ok (String.ofList u.path)
    else .error (.invalidArgument
      ("connection URL does not have a \x60sqlite\x60 scheme; url=" ++ url))

/-- What running a statement did to the database. -/
structure Effect where
  /-- The number of rows changed. -/
  changed : Nat
  /-- The row ids of the inserted rows, in order. -/
  inserted : List Int64

/-- The state of a connection: the row id of the last inserted row, 0 before any. -/
structure Connection where
  lastInsertId : Int64 := 0

/-- Whether a statement reads as an INSERT: its first six letters after blanks do. -/
def isInsert (sql : String) : Bool :=
  ((Text.trimStart sql.toList).take 6).map Char.toLower == "insert".toList

namespace Connection

/-- The connection after a statement. -/
def after (c : Connection) (e : Effect) : Connection := ⟨e.inserted.getLastD c.lastInsertId⟩

/-- The reply to a statement, on the connection as it is after it. -/
def reply (c : Connection) (sql : String) (e : Effect) : ExecReply :=
  ⟨e.changed, if isInsert sql then some (.ofInt64 c.lastInsertId) else none⟩

/-- Report a statement that was run. -/
def report (c : Connection) (sql : String) (e : Effect) : ExecReply × Connection :=
  ((c.after e).reply sql e, c.after e)

theorem lastInsertId_after_append (c : Connection) {e : Effect} {ids : List Int64} {id : Int64}
    (h : e.inserted = ids ++ [id]) : (c.after e).lastInsertId = id := by
  simp [after, h]

end Connection

end RelMap.Sqlite

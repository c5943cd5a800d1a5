-- SUMMARY: A table with generated row ids and one untyped column.
import RelMap.Sqlite.Store

/-!
# A SQLite table

A `Table` has rows with an id that the database generates and one column without a
type. Ids count up from 1, and one that was given out is not given out again. Every
operation binds its arguments before it changes anything.
-/
namespace RelMap.Sqlite

/-- The rows of a table by their ids, in ascending order. -/
structure Contents where
  /-- How many ids were given out. -/
  issued : Nat := 0
  rows : List (Int64 × Storage) := []

namespace Contents

/-- Append a row for each value; without values, one row of null. -/
def append (c : Contents) (xs : List Storage) : Execution Contents :=
  let stored := if xs.isEmpty then [.null] else xs
  let ids := (List.range stored.length).map fun i => Int64.ofNat (c.issued + i + 1)
  { database := ⟨c.issued + stored.length, c.rows ++ ids.zip stored⟩
    effect := ⟨stored.length, ids⟩ }

/-- Append every row of the table under the id that it has. All of these ids are taken, so
every row is left out. -/
def appendItself (c : Contents) : Execution Contents := { database := c }

/-- Write a value to every row. -/
def update (c : Contents) (x : Storage) : Execution Contents where
  database := { c with rows := c.rows.map fun (id, _) => (id, x) }
  effect := ⟨c.rows.length, []⟩

/-- Delete the row whose id a value equals. -/
def delete (c : Contents) (x : Storage) : Execution Contents :=
  let rows := c.rows.filter fun (id, _) => x.rowId? != some id
  { database := { c with rows }
    effect := ⟨c.rows.length - rows.length, []⟩ }

/-- Every row: its id and its value. -/
def select (c : Contents) : Execution Contents where
  database := c
  rows := c.rows.map fun (id, x) => [.integer id, x]

end Contents

/-! ## Statements -/

namespace Command

/-- The text of an INSERT of `count` rows, one at least. -/
def insertText (verb : String) (count : Nat) : String :=
  verb ++ " INTO t " ++
    if count = 0 then "DEFAULT VALUES"
    else "(v) VALUES " ++ ", ".intercalate (List.replicate count "(?)")

/-- Insert `count` rows of the arguments, with a verb that inserts every row. -/
def insert (verb : String) (count : Nat) : Command Contents where
  sql := insertText verb count
  prepare c := .ok fun xs => c.append xs

/-- The text that copies every row of the table under its id. -/
def copyText : String := "INSERT OR IGNORE INTO t SELECT * FROM t"

/-- Insert the rows of the table itself. A comment can follow. -/
def copy (comment : String) : Command Contents where
  sql := copyText ++ comment
  prepare c := .ok fun _ => c.appendItself

/-- The statement that a verb starts. A verb that is a whole statement makes a comment of what
follows it. -/
def ofVerb (verb : String) (count : Nat) : Command Contents :=
  let text := (insertText verb count).toList
  if (copyText ++ " --").toList.isPrefixOf text then
    copy (String.ofList (text.drop copyText.length))
  else insert verb count

/-- A parameter without an argument is null. -/
def update : Command Contents where
  sql := "UPDATE t SET v = ?"
  prepare c := .ok fun xs => c.update (xs.headD .null)

def delete : Command Contents where
  sql := "DELETE FROM t WHERE id = ?"
  prepare c := .ok fun xs => c.delete (xs.headD .null)

def select : Command Contents where
  sql := "SELECT id, v FROM t ORDER BY id"
  prepare c := .ok fun _ => c.select

end Command

/-! ## Operations -/

/-- A table, with the connection that leads to it. -/
structure Table extends Store Contents where
  database := {}

namespace Table

/-- Run a statement that has nothing to fail at but its arguments. -/
def exec (t : Table) (c : Command Contents) (args : List Value) : Result (ExecReply × Table) :=
  match t.toStore.exec c args with
  | (.ok reply, s) => .ok (reply, ⟨s⟩)
  | (.error e, _) => .error e

def insert (t : Table) (verb : String) (values : List Value) : Result (ExecReply × Table) :=
  t.exec (.ofVerb verb values.length) values

def update (t : Table) (v : Value) : Result (ExecReply × Table) := t.exec .update [v]

def delete (t : Table) (v : Value) : Result (ExecReply × Table) := t.exec .delete [v]

/-- Every row: its id and its value. -/
def all (t : Table) : List Row :=
  t.database.rows.map fun (id, x) => ⟨[.int (.ofInt64 id), x.load]⟩

/-- The rows are what a query returns, and it changes nothing. -/
theorem query_select (t : Table) :
    t.toStore.query .select [] = (.ok (t.all.map .ok), t.toStore) := by
  simp [Store.query, Store.execute, Command.select, Contents.select, Storage.bindAll,
    Execution.result, Store.after, Connection.after, all, Storage.load]

end Table

end RelMap.Sqlite

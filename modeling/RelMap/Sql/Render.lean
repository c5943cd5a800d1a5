-- SUMMARY: The statements that read and write the rows of one table.
import RelMap.Sql.Selection

/-!
# Statements

Each statement is a head, which names the table and its columns, and the tail that
the filter gives. A statement fails when its filter does not check, and a SELECT or
an UPDATE also when it has no column to read or write.
-/
namespace RelMap

/-- Columns with the values that they are given. -/
abbrev Assignments := List (String × Value)

namespace Dialect

variable (d : Dialect)

/-- Quoted identifiers with commas between them. -/
def columnList (columns : List String) : List Piece :=
  Piece.separated ", " (columns.map fun column => [.text (d.quote column)])

/-- The pieces of an INSERT. Without values the row has the defaults of its
columns. With `returning`, the statement yields that column of the new row. -/
def insertPieces (table : String) (values : Assignments) (returning : Option String) :
    List Piece :=
  let row :=
    if values.isEmpty then
      match d with
      | .mysql => [.text " () VALUES ()"]
      | .postgresql | .sqlite => [.text " DEFAULT VALUES"]
    else
      .text " (" :: d.columnList (values.map (·.1)) ++
        .text ") VALUES (" :: Predicate.list (values.map (·.2)) ++ [.text ")"]
  let result :=
    match returning with
    | some column => [.text (" RETURNING " ++ d.quote column)]
    | none => []
  .text ("INSERT INTO " ++ d.quote table) :: row ++ result

def insert (table : String) (values : Assignments) (returning : Option String) : Statement :=
  d.assemble (d.insertPieces table values returning)

/-- Complete a statement with the tail of a filter. -/
def withFilter (head : List Piece) (filter : Filter) (lookup : Lookup) : Result Statement :=
  match filter.select lookup with
  | .ok selection => .ok (d.assemble (head ++ selection.tail d))
  | .error m => .error m.toError

/-- The filter on its own: the predicate, then any limit. -/
def compile (filter : Filter) (lookup : Lookup) : Result Statement :=
  match filter.select lookup with
  | .ok selection => .ok (d.assemble (selection.clause d))
  | .error m => .error m.toError

/-- The head of a SELECT. -/
def selectHead (table : String) (columns : List String) : List Piece :=
  .text "SELECT " :: d.columnList columns ++ [.text (" FROM " ++ d.quote table)]

/-- The head of an UPDATE. -/
def updateHead (table : String) (assignments : Assignments) : List Piece :=
  .text ("UPDATE " ++ d.quote table ++ " SET ") ::
    Piece.separated ", "
      (assignments.map fun (column, v) => [.text (d.quote column ++ " = "), .bind v])

/-- The head of a DELETE. -/
def deleteHead (table : String) : List Piece := [.text ("DELETE FROM " ++ d.quote table)]

/-- The head of a count of rows. -/
def countHead (table : String) : List Piece :=
  [.text ("SELECT COUNT(*) FROM " ++ d.quote table)]

/-- A statement on `table` that needs something to name. -/
def noColumns (statement table what : String) : Error :=
  .invalidArgument (statement ++ " \x60" ++ table ++ "\x60 requires at least one " ++ what)

def select (table : String) (columns : List String) (filter : Filter) (lookup : Lookup) :
    Result Statement :=
  if columns.isEmpty then .error (noColumns "SELECT from" table "column")
  else d.withFilter (d.selectHead table columns) filter lookup

/-- An UPDATE. The arguments of the assignments come before those of the filter. -/
def update (table : String) (assignments : Assignments) (filter : Filter) (lookup : Lookup) :
    Result Statement :=
  if assignments.isEmpty then .error (noColumns "UPDATE of" table "assignment")
  else d.withFilter (d.updateHead table assignments) filter lookup

def delete (table : String) (filter : Filter) (lookup : Lookup) : Result Statement :=
  d.withFilter (d.deleteHead table) filter lookup

def count (table : String) (filter : Filter) (lookup : Lookup) : Result Statement :=
  d.withFilter (d.countHead table) filter lookup

end Dialect

end RelMap

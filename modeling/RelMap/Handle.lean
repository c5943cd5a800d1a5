-- SUMMARY: Records bound to a database, and the operations on them.
import RelMap.Database
import RelMap.Executor
import RelMap.Sql.Render

/-!
# Handles

A `Handle` binds a record to the schema that its type had when it was bound, or to
the error that there was none. Each operation prepares its statement first and then
makes one request. `find` and `create` also change the record: `find` only after
every column has been converted.
-/
namespace RelMap

/-- A record bound to a schema. -/
structure Handle where
  dialect : Dialect
  model : ModelType
  schema : Result Schema
  record : Record

/-- The result of an operation and the record after it. -/
structure Outcome (α : Type) where
  result : Result α
  record : Record

namespace Database

/-- Bind a record. -/
def load (db : Database) (m : ModelType) (record : Record) : Handle :=
  ⟨db.dialect, m, db.registry.get m, record⟩

end Database

namespace Schema

/-- The current value of a column of a record. -/
def lookup (s : Schema) (r : Record) : Lookup := fun name => (s.column? name).map (·.get r)

/-- The columns that are not generated, with their values in a record. -/
def assignments (s : Schema) (r : Record) : Assignments :=
  (s.descriptors.filter (!·.isAutoIncrement)).map fun d => (d.column, d.get r)

/-- Convert the columns of a row, from column `i` on, to the kinds of fields. -/
def convertRow : List Descriptor → Nat → Row → Result (List (Option Value))
  | [], _, _ => .ok []
  | d :: ds, i, row =>
    let (v, row) := row.take i
    match d.kind.coerce v with
    | .error e => .error e
    | .ok w =>
      match convertRow ds (i + 1) row with
      | .error e => .error e
      | .ok ws => .ok (w :: ws)

/-- Write converted values into a record, as far as that succeeds. -/
def writeAll : List (Descriptor × Option Value) → Record → Outcome Unit
  | [], r => ⟨.ok (), r⟩
  | (_, none) :: rest, r => writeAll rest r
  | (d, some v) :: rest, r =>
    match d.set r v with
    | .ok r => writeAll rest r
    | .error e => ⟨.error e, r⟩

/-- Write the columns of a row, from column `i` on, into a record. -/
def fill : List Descriptor → Nat → Row → Record → Result Record
  | [], _, _, r => .ok r
  | d :: ds, i, row, r =>
    let (v, row) := row.take i
    match d.set r v with
    | .ok r => fill ds (i + 1) row r
    | .error e => .error e

/-- The records of rows, each written into a copy of `blank`. -/
def records (s : Schema) (blank : Record) : Rows → Result (List Record)
  | [] => .ok []
  | .error e :: _ => .error e
  | .ok row :: rest =>
    match fill s.descriptors 0 row blank with
    | .error e => .error e
    | .ok r =>
      match s.records blank rest with
      | .error e => .error e
      | .ok rs => .ok (r :: rs)

end Schema

namespace Handle

/-- The SELECT of every mapped column. -/
def selectStatement (h : Handle) (s : Schema) (filter : Filter) : Result Statement :=
  h.dialect.select s.table s.columns filter (s.lookup h.record)

/-- The column that an INSERT has to yield: the generated one, where the database
reports no id on its own. -/
def returning? (h : Handle) (s : Schema) : Option String :=
  if h.dialect = .postgresql then s.autoIncrement?.map (·.column) else none

/-- The INSERT of the record. -/
def insertStatement (h : Handle) (s : Schema) : Statement :=
  h.dialect.insert s.table (s.assignments h.record) (h.returning? s)

/-- The record with the generated id written back. -/
def storeId (h : Handle) (s : Schema) (id : Option Value) : Outcome Unit :=
  match s.autoIncrement?, id with
  | some d, some v =>
    match d.set h.record v with
    | .ok r => ⟨.ok (), r⟩
    | .error e => ⟨.error e, h.record⟩
  | _, _ => ⟨.ok (), h.record⟩

/-- Insert the record. Generated columns are left to the database, and the first
of them takes the id that is reported. -/
def create (h : Handle) : Plan (Outcome Unit) :=
  match h.schema with
  | .error e => .done ⟨.error e, h.record⟩
  | .ok s =>
    match h.returning? s with
    | some _ => .query (h.insertStatement s) fun
      | .error e => ⟨.error e, h.record⟩
      | .ok rows =>
        match rows.first with
        | .error e => ⟨.error e, h.record⟩
        | .ok row => h.storeId s (row.map fun row => (row.take 0).1)
    | none => .exec (h.insertStatement s) fun
      | .error e => ⟨.error e, h.record⟩
      | .ok reply => h.storeId s (reply.lastInsertId.map .int)

/-- Load the first matching row into the record. -/
def find (h : Handle) (filter : Filter) : Plan (Outcome Unit) :=
  match h.schema with
  | .error e => .done ⟨.error e, h.record⟩
  | .ok s =>
    match h.selectStatement s filter with
    | .error e => .done ⟨.error e, h.record⟩
    | .ok statement => .query statement fun
      | .error e => ⟨.error e, h.record⟩
      | .ok rows =>
        match rows.first with
        | .error e => ⟨.error e, h.record⟩
        | .ok none => ⟨.error (.recordNotFound ("table=" ++ s.table)), h.record⟩
        | .ok (some row) =>
          match Schema.convertRow s.descriptors 0 row with
          | .error e => ⟨.error e, h.record⟩
          | .ok values => Schema.writeAll (s.descriptors.zip values) h.record

/-- Load every matching row into a record of its own. -/
def findAll (h : Handle) (filter : Filter) : Plan (Result (List Record)) :=
  match h.schema with
  | .error e => .done (.error e)
  | .ok s =>
    match h.selectStatement s filter with
    | .error e => .done (.error e)
    | .ok statement => .query statement fun
      | .error e => .error e
      | .ok rows => s.records h.model.fresh rows

/-- Run a statement and count the rows that it affects. -/
def affect : Result Statement → Plan (Result Nat)
  | .error e => .done (.error e)
  | .ok statement => .exec statement fun
    | .error e => .error e
    | .ok reply => .ok reply.rowsAffected

/-- Write assignments to matching rows; with none there is nothing to do. -/
def write (h : Handle) (choose : Assignments → Assignments) (filter : Filter) :
    Plan (Result Nat) :=
  match h.schema with
  | .error e => .done (.error e)
  | .ok s =>
    match choose (s.assignments h.record) with
    | [] => .done (.ok 0)
    | assignments =>
      affect (h.dialect.update s.table assignments filter (s.lookup h.record))

/-- Write the fields that are not zero to matching rows. -/
def update (h : Handle) (filter : Filter) : Plan (Result Nat) :=
  h.write (·.filter fun (_, v) => !v.isZero) filter

/-- Write every field to matching rows. -/
def save (h : Handle) (filter : Filter) : Plan (Result Nat) := h.write id filter

/-- Delete matching rows. -/
def delete (h : Handle) (filter : Filter) : Plan (Result Nat) :=
  match h.schema with
  | .error e => .done (.error e)
  | .ok s => affect (h.dialect.delete s.table filter (s.lookup h.record))

/-- The integer of a counted row; zero without a row. -/
def countOf : Option Row → Result Value
  | none => .ok (.int (.zero .i64))
  | some row => (Kind.int .i64).load (row.take 0).1

/-- Count matching rows. -/
def count (h : Handle) (filter : Filter) : Plan (Result Value) :=
  match h.schema with
  | .error e => .done (.error e)
  | .ok s =>
    match h.dialect.count s.table filter (s.lookup h.record) with
    | .error e => .done (.error e)
    | .ok statement => .query statement fun
      | .error e => .error e
      | .ok rows =>
        match rows.first with
        | .error e => .error e
        | .ok row => countOf row

/-- The mapped fields of the record. -/
def bindings (h : Handle) : Result (List (Descriptor × Value)) :=
  match h.schema with
  | .error e => .error e
  | .ok s => .ok (s.descriptors.map fun d => (d, d.get h.record))

end Handle

end RelMap

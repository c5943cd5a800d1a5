-- SUMMARY: The operations of handles as programs that make requests and change state step by step.
import RelMap.Handle

/-!
# Operations step by step

`Handle` gives each operation as a plan, and the form of a plan allows one request at most. Here
the same operations are programs, whose form promises nothing: a program may make any number of
requests, at any time, and may change the record and the registry in between. What it has
changed stays changed when it fails.
-/
namespace RelMap

/-! ## Requests and replies -/

/-- A request that a program makes. -/
inductive Ask where
  | exec (statement : Statement)
  | query (statement : Statement)
  /-- A query of which only the first row is wanted. -/
  | queryRow (statement : Statement)

/-- The request as an executor sees it that has no way of its own to fetch the first row. -/
def Ask.call : Ask → Call
  | .exec statement => .exec statement
  | .query statement => .query statement
  | .queryRow statement => .query statement

/-- What programs talk to. A reply may depend on what was asked before. -/
structure Server where
  exec : List Ask → Statement → Result ExecReply
  query : List Ask → Statement → Result Rows
  queryRow : List Ask → Statement → Result (Option Row)

/-- The server of executors that fetch the first row by running the query. -/
def Server.ofExecutor (executor : List Ask → Executor) : Server where
  exec past := (executor past).exec
  query past := (executor past).query
  queryRow past statement := do ((← (executor past).query statement).first)

/-! ## Programs -/

/-- What a program can change. -/
structure Memory where
  registry : Registry
  /-- The record that is bound. -/
  record : Record
  /-- The requests that were made, in order. -/
  asked : List Ask

/-- A program fails or yields a value, and leaves a memory either way. -/
abbrev Program := ExceptT Error (StateM Memory)

namespace Program

def run (p : Program α) (m : Memory) : Result α × Memory := StateT.run (ExceptT.run p) m

def ofResult (r : Result α) : Program α := liftExcept r

/-- Make a request. -/
def ask (request : Ask) (reply : List Ask → Result α) : Program α := do
  let m ← get
  set { m with asked := m.asked ++ [request] }
  ofResult (reply m.asked)

def exec (server : Server) (statement : Statement) : Program ExecReply :=
  ask (.exec statement) (server.exec · statement)

def query (server : Server) (statement : Statement) : Program Rows :=
  ask (.query statement) (server.query · statement)

def queryRow (server : Server) (statement : Statement) : Program (Option Row) :=
  ask (.queryRow statement) (server.queryRow · statement)

/-- Set a field of the bound record. -/
def assign (d : Descriptor) (v : Value) : Program Unit := do
  let m ← get
  let r ← ofResult (d.set m.record v)
  set { m with record := r }

/-- Set fields of the bound record one by one, up to the first that fails. -/
def assignAll : List (Descriptor × Option Value) → Program Unit
  | [] => pure ()
  | (_, none) :: rest => assignAll rest
  | (d, some v) :: rest => do
    assign d v
    assignAll rest

end Program

/-! ## Operations -/

/-- The plan with its outcome changed. -/
def Plan.map (f : α → β) : Plan α → Plan β
  | .done a => .done (f a)
  | .exec statement next => .exec statement (f ∘ next)
  | .query statement next => .query statement (f ∘ next)

inductive Operation where
  | create
  | find (filter : Filter)
  | findAll (filter : Filter)
  | update (filter : Filter)
  | save (filter : Filter)
  | delete (filter : Filter)
  | count (filter : Filter)

/-- What an operation answers. -/
inductive Answer where
  | done
  | records (records : List Record)
  /-- The number of rows that were written. -/
  | affected (rows : Nat)
  /-- The number of rows that were counted. -/
  | counted (rows : Value)

namespace Operation

open Program

variable (server : Server) (h : Handle)

/-- The handle with the record as it is now. -/
def current : Program Handle := do return { h with record := (← get).record }

/-- Write a generated id back into the record. -/
def storeId (s : Schema) (id : Option Value) : Program Unit :=
  match s.autoIncrement?, id with
  | some d, some v => assign d v
  | _, _ => pure ()

def createProgram : Program Answer := do
  let s ← ofResult h.schema
  let statement := (← current h).insertStatement s
  if (h.returning? s).isSome then
    storeId s ((← queryRow server statement).map fun row => (row.take 0).1)
  else
    storeId s ((← exec server statement).lastInsertId.map .int)
  return .done

def findProgram (filter : Filter) : Program Answer := do
  let s ← ofResult h.schema
  let statement ← ofResult ((← current h).selectStatement s filter)
  match ← queryRow server statement with
  | none => throw (.recordNotFound ("table=" ++ s.table))
  | some row =>
    let values ← ofResult (Schema.convertRow s.descriptors 0 row)
    assignAll (s.descriptors.zip values)
    return .done

def findAllProgram (filter : Filter) : Program Answer := do
  let s ← ofResult h.schema
  let statement ← ofResult ((← current h).selectStatement s filter)
  let rows ← query server statement
  return .records (← ofResult (s.records h.model.fresh rows))

/-- Run a statement and count the rows that it affects. -/
def affectProgram (statement : Result Statement) : Program Answer := do
  let reply ← exec server (← ofResult statement)
  return .affected reply.rowsAffected

def writeProgram (choose : Assignments → Assignments) (filter : Filter) : Program Answer := do
  let s ← ofResult h.schema
  let r := (← get).record
  let assignments := choose (s.assignments r)
  if assignments.isEmpty then return .affected 0
  affectProgram server (h.dialect.update s.table assignments filter (s.lookup r))

def deleteProgram (filter : Filter) : Program Answer := do
  let s ← ofResult h.schema
  affectProgram server (h.dialect.delete s.table filter (s.lookup (← get).record))

def countProgram (filter : Filter) : Program Answer := do
  let s ← ofResult h.schema
  let statement ← ofResult (h.dialect.count s.table filter (s.lookup (← get).record))
  return .counted (← ofResult (Handle.countOf (← queryRow server statement)))

/-- The operation, step by step. -/
def program : Operation → Program Answer
  | .create => createProgram server h
  | .find filter => findProgram server h filter
  | .findAll filter => findAllProgram server h filter
  | .update filter => writeProgram server h (·.filter fun (_, v) => !v.isZero) filter
  | .save filter => writeProgram server h id filter
  | .delete filter => deleteProgram server h filter
  | .count filter => countProgram server h filter

/-- The operation as a plan. -/
def plan : Operation → Plan (Outcome Answer)
  | .create => h.create.map fun o => ⟨o.result.map fun _ => .done, o.record⟩
  | .find filter => (h.find filter).map fun o => ⟨o.result.map fun _ => .done, o.record⟩
  | .findAll filter => (h.findAll filter).map fun r => ⟨r.map .records, h.record⟩
  | .update filter => (h.update filter).map fun r => ⟨r.map .affected, h.record⟩
  | .save filter => (h.save filter).map fun r => ⟨r.map .affected, h.record⟩
  | .delete filter => (h.delete filter).map fun r => ⟨r.map .affected, h.record⟩
  | .count filter => (h.count filter).map fun r => ⟨r.map .counted, h.record⟩

end Operation

/-- Run an operation of a handle: its result, and what it leaves behind. -/
def Handle.perform (server : Server) (h : Handle) (op : Operation) (registry : Registry)
    (past : List Ask) : Result Answer × Memory :=
  (op.program server h).run ⟨registry, h.record, past⟩

end RelMap

-- SUMMARY: Databases in use: registrations, bindings and operations in any order.
import RelMap.Operation

/-!
# Sessions

A `Session` is a database in use, with the handles that were bound so far. Events change it one
by one. A registration is a program like the operations, so its form does not keep it from
changing something and failing then.
-/
namespace RelMap

/-! ## Registrations -/

/-- A model type and the whole name of the table that it is to be stored in. -/
structure Registration where
  model : ModelType
  table : String

namespace Registration

/-- The schema that the registration gives its model type. -/
def schema (r : Registration) : Schema := .ofFields r.table r.model.fields

/-- Whether the name of the table is blank. -/
def isBlank (r : Registration) : Bool := (Text.trim r.table.toList).isEmpty

/-- Register a model type. -/
def program (r : Registration) : Program Unit := do
  if r.isBlank then
    throw (.invalidArgument ("table name for \x60" ++ r.model.name ++ "\x60 must not be empty"))
  let m ← get
  set { m with registry := m.registry.insert r.model.id r.schema }

end Registration

/-- The registration that is made with a database, which puts its prefix before the name of the
table. The empty name stays empty. -/
def Database.registration (db : Database) (m : ModelType) (table : String) : Registration :=
  ⟨m, if table.isEmpty then "" else db.tablePrefix ++ table⟩

/-! ## Events -/

/-- A database in use. -/
structure Session where
  db : Database
  /-- The requests that were made, in order. -/
  asked : List Ask := []
  /-- The records that were bound, in order. -/
  handles : List Handle := []

/-- What can happen in a session. -/
inductive Event where
  /-- Register with the database. -/
  | register (m : ModelType) (table : String)
  /-- Register with the registry itself, which knows of no prefix. -/
  | enroll (m : ModelType) (table : String)
  /-- Bind a record. -/
  | load (m : ModelType) (record : Record)
  /-- Run an operation of one of the records that were bound. -/
  | operate (handle : Nat) (op : Operation)

/-- What comes of an event. -/
inductive Reply where
  | registered (r : Registration) (result : Result Unit)
  | loaded
  | answered (answer : Result Answer)
  | noHandle

/-- The registration that succeeded. -/
def Reply.success? : Reply → Option Registration
  | .registered r (.ok ()) => some r
  | _ => none

namespace Session

/-- A database in use that nothing is registered with. -/
def opened (dialect : Dialect) (tablePrefix : String) : Session where
  db := { dialect, tablePrefix }

def register (s : Session) (r : Registration) : Result Unit × Session :=
  let (result, m) := r.program.run ⟨s.db.registry, [], s.asked⟩
  (result, { s with db := { s.db with registry := m.registry }, asked := m.asked })

/-- Run an operation of the handle at a position. -/
def operate (server : Server) (s : Session) (i : Nat) (h : Handle) (op : Operation) :
    Result Answer × Session :=
  let (answer, m) := h.perform server op s.db.registry s.asked
  (answer,
    { db := { s.db with registry := m.registry }
      asked := m.asked
      handles := s.handles.set i { h with record := m.record } })

/-- What comes of an event, and the session after it. -/
def step (server : Server) (s : Session) : Event → Reply × Session
  | .register m table =>
    let r := s.db.registration m table
    let (result, s) := s.register r
    (.registered r result, s)
  | .enroll m table =>
    let (result, s) := s.register ⟨m, table⟩
    (.registered ⟨m, table⟩ result, s)
  | .load m record => (.loaded, { s with handles := s.handles ++ [s.db.load m record] })
  | .operate i op =>
    match s.handles[i]? with
    | some h =>
      let (answer, s) := s.operate server i h op
      (.answered answer, s)
    | none => (.noHandle, s)

/-- The session after events. -/
def run (server : Server) (s : Session) (events : List Event) : Session :=
  events.foldl (fun s e => (s.step server e).2) s

/-- What comes of events, one by one. -/
def replies (server : Server) : Session → List Event → List Reply
  | _, [] => []
  | s, e :: events => (s.step server e).1 :: replies server (s.step server e).2 events

/-- The registrations that succeed, in order. -/
def successes (server : Server) (s : Session) (events : List Event) : List Registration :=
  (s.replies server events).filterMap Reply.success?

end Session

end RelMap

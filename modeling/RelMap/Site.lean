-- SUMMARY: A builder in use, with the databases that were built.
import RelMap.Connect

/-!
# Building databases

A `Site` is a builder with the databases that were built. The builder stays when it has built a
database: it takes up further settings and can build again. Each database lies at an address of its
own, and all who use it share what lies there. Registrations change it in place, those too that are
replayed while it is built.
-/
namespace RelMap

/-- A builder and the databases by their addresses. -/
structure Site where
  builder : Builder := {}
  databases : List Database := []

namespace Site

/-- Where a database lies. -/
abbrev Address := Nat

/-- What the statements of a database run on: an executor that is handed over, or the driver that a
URL names. -/
inductive Source where
  | executor
  | url (text : String)
  deriving DecidableEq, Repr

/-- The dialect that a source brings along. -/
def Source.fallback : Source → Result (Option Dialect)
  | .executor => .ok none
  | .url text =>
    match Endpoint.ofText text with
    | .ok endpoint => .ok (some endpoint.dialect)
    | .error e => .error e

/-- Change the database at an address. A change that fails changes nothing, and neither does one
where no database is. -/
def change (s : Site) (a : Address) (f : Database → Result Database) : Result Unit × Site :=
  match s.databases[a]? with
  | some db =>
    match f db with
    | .ok db => (.ok (), { s with databases := s.databases.set a db })
    | .error e => (.error e, s)
  | none => (.ok (), s)

/-- Register models with the database at an address, up to the first that fails. -/
def replay (s : Site) (a : Address) : List (ModelType × String) → Result Unit × Site
  | [] => (.ok (), s)
  | (m, table) :: rest =>
    match s.change a (·.register m table) with
    | (.ok (), s) => s.replay a rest
    | (.error e, s) => (.error e, s)

/-- Build a database for a dialect. If a registration fails, the database is dropped. -/
def buildFor (s : Site) (d : Dialect) : Result Address × Site :=
  let a := s.databases.length
  let db : Database := { dialect := d, tablePrefix := s.builder.tablePrefix }
  match { s with databases := s.databases ++ [db] }.replay a s.builder.models with
  | (.ok (), s) => (.ok a, s)
  | (.error e, s) => (.error e, { s with databases := s.databases.dropLast })

/-- Build a database on a source. -/
def build (s : Site) (source : Source) : Result Address × Site :=
  match source.fallback with
  | .ok fallback =>
    match s.builder.dialect fallback with
    | .ok d => s.buildFor d
    | .error e => (.error e, s)
  | .error e => (.error e, s)

/-! ## Events -/

/-- What can happen on a site. -/
inductive Event where
  | set (setting : Setting)
  | build (source : Source)
  /-- Register with a database. -/
  | register (a : Address) (m : ModelType) (table : String)
  /-- Register with the registry of a database, which knows of no prefix. -/
  | enroll (a : Address) (m : ModelType) (table : String)

/-- The setting that an event makes. -/
def Event.setting? : Event → Option Setting
  | .set setting => some setting
  | _ => none

/-- Whether an event registers with the database at an address. -/
def Event.Changes (a : Address) : Event → Prop
  | .register b _ _ | .enroll b _ _ => b = a
  | _ => False

instance (a : Address) : (ev : Event) → Decidable (ev.Changes a)
  | .register b _ _ | .enroll b _ _ => inferInstanceAs (Decidable (b = a))
  | .set _ | .build _ => inferInstanceAs (Decidable False)

/-- The site after an event. -/
def step (s : Site) : Event → Site
  | .set setting => { s with builder := s.builder.set setting }
  | .build source => (s.build source).2
  | .register a m table => (s.change a (·.register m table)).2
  | .enroll a m table =>
    (s.change a fun db =>
      match db.registry.register m table with
      | .ok registry => .ok { db with registry }
      | .error e => .error e).2

/-- The site after events. -/
def run (s : Site) (events : List Event) : Site := events.foldl step s

end Site

end RelMap

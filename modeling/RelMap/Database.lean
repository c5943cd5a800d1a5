-- SUMMARY: Databases, the builder that configures them, and their registration of models.
import RelMap.Registry
import RelMap.Sql.Dialect

/-!
# Databases

A `Database` is a dialect, a registry, and a prefix for table names. A `Builder`
collects settings: of each setting the last word counts, and the registrations are
replayed in order once the dialect is settled.
-/
namespace RelMap

/-- What statements are rendered for, and what is registered. -/
structure Database where
  dialect : Dialect
  registry : Registry := []
  tablePrefix : String := ""

namespace Database

/-- Register a model as stored in `table`, after the prefix. The empty name stays
empty, so that it is refused. -/
def register (db : Database) (m : ModelType) (table : String) : Result Database :=
  let fullName := if table.isEmpty then "" else db.tablePrefix ++ table
  match db.registry.register m fullName with
  | .ok registry => .ok { db with registry }
  | .error e => .error e

/-- Register several models, up to the first that fails. -/
def registerAll (db : Database) : List (ModelType × String) → Result Database
  | [] => .ok db
  | (m, table) :: rest =>
    match db.register m table with
    | .ok db => db.registerAll rest
    | .error e => .error e

end Database

/-- How a dialect was chosen. -/
inductive DialectChoice where
  | dialect (d : Dialect)
  /-- By a name that is read when the database is built. -/
  | named (name : String)

/-- Settings of a database to build. A dialect that is chosen as such and one that is chosen by name
take each other's place. -/
structure Builder where
  chosen : Option Dialect := none
  chosenName : Option String := none
  tablePrefix : String := ""
  /-- Models to register, with their table names. -/
  models : List (ModelType × String) := []

/-- One setting. -/
inductive Setting where
  | choose (choice : DialectChoice)
  | tablePrefix (tablePrefix : String)
  | register (m : ModelType) (table : String)

namespace Builder

/-- Take up one setting. -/
def set (b : Builder) : Setting → Builder
  | .choose (.named name) => { b with chosenName := some name, chosen := none }
  | .choose (.dialect d) => { b with chosen := some d, chosenName := none }
  | .tablePrefix tablePrefix => { b with tablePrefix }
  | .register m table => { b with models := b.models ++ [(m, table)] }

/-- Take up settings in order. -/
def ofSettings (settings : List Setting) : Builder := settings.foldl set {}

/-- The dialect to build for; one that was not chosen falls back on `fallback`. -/
def dialect (b : Builder) (fallback : Option Dialect) : Result Dialect :=
  match b.chosenName, b.chosen, fallback with
  | some name, _, _ => Dialect.ofName name
  | none, some d, _ => .ok d
  | none, none, some d => .ok d
  | none, none, none =>
    .error (.invalidArgument
      "no SQL dialect configured; call \x60dialect\x60 or \x60flavor\x60 on the builder")

/-- Build the database for a dialect. -/
def buildFor (b : Builder) (d : Dialect) : Result Database :=
  Database.registerAll { dialect := d, tablePrefix := b.tablePrefix } b.models

/-- Build the database, with `fallback` as the dialect of a connected driver. -/
def build (b : Builder) (fallback : Option Dialect) : Result Database :=
  match b.dialect fallback with
  | .ok d => b.buildFor d
  | .error e => .error e

end Builder

end RelMap

-- SUMMARY: SQL dialects, their names and their quoting of identifiers.
import RelMap.Error
import RelMap.Text.Blank

/-!
# Dialects

A dialect is known by several names, in any case and with blanks around. It quotes
identifiers with its own quote character; one inside an identifier is doubled, so
that `unquote?` finds where a quoted identifier ends.
-/
namespace RelMap

/-- A supported dialect of SQL. -/
inductive Dialect where
  | mysql
  | postgresql
  | sqlite
  deriving DecidableEq, Repr

namespace Dialect

def name : Dialect → String
  | .mysql => "mysql"
  | .postgresql => "postgresql"
  | .sqlite => "sqlite"

/-- The name with a capital letter. -/
def label : Dialect → String
  | .mysql => "Mysql"
  | .postgresql => "Postgresql"
  | .sqlite => "Sqlite"

/-- The names that a dialect goes by, in lower case. -/
def names : Dialect → List String
  | .mysql => ["mysql"]
  | .postgresql => ["postgres", "postgresql", "pg", "pgsql"]
  | .sqlite => ["sqlite", "sqlite3"]

def all : List Dialect := [.mysql, .postgresql, .sqlite]

/-- The dialect that a text names. -/
def ofName (s : String) : Result Dialect :=
  let key := String.ofList ((Text.trim s.toList).map Char.toLower)
  match all.find? (fun d => key ∈ d.names) with
  | some d => .ok d
  | none => .error (.invalidDialect s)

/-- The character that quotes identifiers. -/
def quoteChar : Dialect → Char
  | .mysql => '\x60'
  | .postgresql | .sqlite => '"'

/-- Write every quote character twice. -/
def doubled (quote : Char) : List Char → List Char
  | [] => []
  | c :: cs => if c = quote then quote :: quote :: doubled quote cs else c :: doubled quote cs

/-- A quoted identifier. -/
def quote (d : Dialect) (identifier : String) : String :=
  String.ofList (d.quoteChar :: doubled d.quoteChar identifier.toList ++ [d.quoteChar])

/-- The identifier before the closing quote, and the text after it. -/
def closeQuote? (quote : Char) : List Char → Option (List Char × List Char)
  | [] => none
  | [c] => if c = quote then some ([], []) else none
  | c :: c' :: cs =>
    if c = quote then
      if c' = quote then (closeQuote? quote cs).map fun (id, rest) => (quote :: id, rest)
      else some ([], c' :: cs)
    else (closeQuote? quote (c' :: cs)).map fun (id, rest) => (c :: id, rest)

/-- Scan one quoted identifier off the front of a text. -/
def unquote? (d : Dialect) : List Char → Option (List Char × List Char)
  | [] => none
  | c :: cs => if c = d.quoteChar then closeQuote? d.quoteChar cs else none

end Dialect

end RelMap

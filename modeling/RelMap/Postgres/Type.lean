-- SUMMARY: The PostgreSQL types that parameters and columns can have.

/-!
# PostgreSQL types

The types by which a server describes parameters and columns. Parameters are sent
at twelve of them.
-/
namespace RelMap.Postgres

/-- A type of a parameter or a column. -/
inductive PgType where
  | bool | bytea | name
  | int2 | int4 | int8
  | float4 | float8 | numeric
  | text | varchar | bpchar
  | timestamp | timestamptz | date
  | json | uuid | int4Array
  deriving DecidableEq, Repr

namespace PgType

/-- The name that the server has for the type. -/
def label : PgType → String
  | .bool => "bool"
  | .bytea => "bytea"
  | .name => "name"
  | .int2 => "int2"
  | .int4 => "int4"
  | .int8 => "int8"
  | .float4 => "float4"
  | .float8 => "float8"
  | .numeric => "numeric"
  | .text => "text"
  | .varchar => "varchar"
  | .bpchar => "bpchar"
  | .timestamp => "timestamp"
  | .timestamptz => "timestamptz"
  | .date => "date"
  | .json => "json"
  | .uuid => "uuid"
  | .int4Array => "_int4"

def all : List PgType :=
  [.bool, .bytea, .name, .int2, .int4, .int8, .float4, .float8, .numeric, .text, .varchar,
    .bpchar, .timestamp, .timestamptz, .date, .json, .uuid, .int4Array]

/-- The type of a name. -/
def ofLabel? (s : String) : Option PgType := all.find? (·.label == s)

/-- Whether parameters of the type can be sent. -/
def isAccepted : PgType → Bool
  | .bool | .int2 | .int4 | .int8 | .float4 | .float8 | .text | .varchar | .bpchar | .bytea
  | .timestamp | .timestamptz => true
  | .name | .numeric | .date | .json | .uuid | .int4Array => false

/-- Whether columns of the type can be read. -/
def isReadable : PgType → Bool
  | .name => true
  | ty => ty.isAccepted

end PgType

end RelMap.Postgres

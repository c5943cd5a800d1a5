-- SUMMARY: Field definitions of models and the schemas that map them to columns.
import RelMap.Coercion
import RelMap.Schema.Options

/-!
# Schemas

A model type declares its fields in order. The schema of a model is the table that
it maps to and one descriptor for each field that maps to a column:
`FieldDef.descriptor?` says which fields do. A `Record` holds the values of the
fields of one instance.
-/
namespace RelMap

/-- One declared field of a model. -/
structure FieldDef where
  /-- The position in the declaration. -/
  index : Nat
  name : String
  /-- The text of the column attribute. -/
  db : Option String
  /-- The text of the option attribute. -/
  option : Option String
  kind : Kind
  /-- Whether the field can be read and written. -/
  accessible : Bool := kind.isSupported
  deriving DecidableEq, Repr

/-- A field that maps to a column. -/
structure Descriptor where
  index : Nat
  column : String
  name : String
  kind : Kind
  options : Options
  deriving DecidableEq, Repr

/-- A table and the columns that the fields of a model map to. -/
structure Schema where
  table : String
  descriptors : List Descriptor
  deriving DecidableEq, Repr

/-- The fields of one instance, in the order of their declaration. A field of an
unsupported kind holds null. -/
abbrev Record := List Value

/-- The record of an instance whose fields were never set. -/
def Record.initial (fields : List FieldDef) : Record := fields.map fun d => d.kind.default

namespace FieldDef

/-- The column that the field maps to. Its name is given by the column attribute,
or is the field's own if only options are given. A dash stands for no column. -/
def column? (d : FieldDef) : Option String :=
  match d.db.filter (· ≠ "") with
  | some column => if column = "-" then none else some column
  | none =>
    match d.option with
    | some option => if option = "" ∨ option = "-" then none else some d.name
    | none => none

/-- The descriptor of the field, if it maps to a column. -/
def descriptor? (d : FieldDef) : Option Descriptor :=
  if d.accessible ∧ d.kind.isSupported then
    d.column?.map fun column =>
      ⟨d.index, column, d.name, d.kind, (d.option.map Options.ofText).getD []⟩
  else none

end FieldDef

namespace Descriptor

/-- The value of an option. -/
def option? (d : Descriptor) (key : String) : Option String := d.options.get? key

/-- Whether the database generates the values of the column. -/
def isAutoIncrement (d : Descriptor) : Bool := d.option? "autoIncrement" == some "-"

/-- The value of the field in a record. -/
def get (d : Descriptor) (r : Record) : Value := r.getD d.index .null

/-- The record with the field loaded from a value; null leaves it as it is. -/
def set (d : Descriptor) (r : Record) (v : Value) : Result Record :=
  if v.isNull then .ok r
  else
    match d.kind.load v with
    | .ok w => .ok (r.set d.index w)
    | .error e => .error e

end Descriptor

namespace Schema

/-- The schema of declared fields. -/
def ofFields (table : String) (fields : List FieldDef) : Schema :=
  ⟨table, fields.filterMap FieldDef.descriptor?⟩

/-- The first descriptor of a generated column. -/
def autoIncrement? (s : Schema) : Option Descriptor := s.descriptors.find? (·.isAutoIncrement)

/-- The first descriptor of a column. -/
def column? (s : Schema) (name : String) : Option Descriptor :=
  s.descriptors.find? (·.column == name)

/-- The columns, in the order of the fields. -/
def columns (s : Schema) : List String := s.descriptors.map (·.column)

end Schema

end RelMap

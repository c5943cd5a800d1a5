-- SUMMARY: Diagnostic texts of databases, handles and bindings.
import RelMap.Handle
import RelMap.Value.Literal

/-!
# Diagnostic texts

How databases, handles and field bindings show in diagnostics: a name, and the
parts that identify them in braces.
-/
namespace RelMap

/-- A name with labelled parts in braces. -/
def describe (name : String) (parts : List (String × String)) : String :=
  name ++ " \x7b " ++
    ", ".intercalate (parts.map fun (label, text) => label ++ ": " ++ text) ++ " \x7d"

def Registry.describe (r : Registry) : String :=
  RelMap.describe "Registry" [("models", Digits.natText r.size)]

def Database.describe (db : Database) : String :=
  RelMap.describe "Db" [("flavor", db.dialect.label), ("registry", db.registry.describe)]

def Handle.describe (h : Handle) : String :=
  RelMap.describe "Handle" <|
    match h.schema with
    | .ok s => [("table", Quoted.text s.table)]
    | .error e => [("error", e.message)]

def Descriptor.describe (d : Descriptor) (v : Value) : String :=
  RelMap.describe "FieldBinding" [("column", Quoted.text d.column), ("value", v.literal)]

/-- Rows show nothing of their contents. -/
def Rows.describe (_ : Rows) : String := "Rows \x7b .. \x7d"

end RelMap

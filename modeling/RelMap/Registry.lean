-- SUMMARY: The schemas that model types are registered with.
import RelMap.Schema

/-!
# The registry

A registry maps model types to schemas. It tells types apart by their identity, and the
path of a type is only read out in messages. Registering a type again replaces its schema; a
registration that fails changes nothing.
-/
namespace RelMap

/-! ## Model types -/

/-- The identity of a type. Types that share a path, as in two bodies of code, are told apart by
a number. -/
structure TypeId where
  path : String
  number : Nat := 0
  deriving DecidableEq, Repr

/-- The only type of a path. -/
instance : Coe String TypeId := ⟨fun path => ⟨path, 0⟩⟩

/-- The record that a new instance of a type with these fields starts from. -/
class Fresh (fields : List FieldDef) where
  record : Record

/-- Unless the type says otherwise, none of its fields was set. -/
instance (priority := low) (fields : List FieldDef) : Fresh fields := ⟨.initial fields⟩

/-- A model type: its identity, its declared fields, and the record that its instances start
from. -/
structure ModelType where
  id : TypeId
  fields : List FieldDef
  [start : Fresh fields]

namespace ModelType

/-- The name of the type in messages. -/
def name (m : ModelType) : String := m.id.path

/-- The record of a new instance. -/
def fresh (m : ModelType) : Record := m.start.record

end ModelType

/-! ## Entries -/

/-- The schemas by the identities of their model types. -/
abbrev Registry := List (TypeId × Schema)

namespace Registry

/-- The number of registered types. -/
def size (r : Registry) : Nat := r.length

/-- The schema of a type. -/
def get? (r : Registry) (id : TypeId) : Option Schema := r.lookup id

/-- Set the schema of a type, in place of the one that it had. -/
def insert (id : TypeId) (s : Schema) : Registry → Registry
  | [] => [(id, s)]
  | (i, t) :: rest => if i = id then (id, s) :: rest else (i, t) :: insert id s rest

/-- The schema of a registered type. -/
def get (r : Registry) (m : ModelType) : Result Schema :=
  match r.get? m.id with
  | some s => .ok s
  | none => .error (.notRegistered m.name)

/-- Register a type as stored in `table`, which must not be blank. -/
def register (r : Registry) (m : ModelType) (table : String) : Result Registry :=
  if (Text.trim table.toList).isEmpty then
    .error (.invalidArgument ("table name for \x60" ++ m.name ++ "\x60 must not be empty"))
  else .ok (r.insert m.id (.ofFields table m.fields))

/-! ## Laws -/

theorem get?_insert_self (r : Registry) (id : TypeId) (s : Schema) :
    (r.insert id s).get? id = some s := by
  induction r with
  | nil => simp [insert, get?]
  | cons e rest ih =>
    obtain ⟨i, t⟩ := e
    by_cases h : i = id
    · simp [insert, h, get?]
    · simpa [insert, h, get?, List.lookup_cons, Ne.symm h, beq_eq_false_iff_ne.2 (Ne.symm h)]
        using ih

theorem get?_insert_of_ne (r : Registry) {id other : TypeId} (s : Schema) (h : other ≠ id) :
    (r.insert id s).get? other = r.get? other := by
  induction r with
  | nil => simp [insert, get?, List.lookup_cons, beq_eq_false_iff_ne.2 h]
  | cons e rest ih =>
    obtain ⟨i, t⟩ := e
    by_cases hi : i = id
    · subst hi
      simp [insert, get?, List.lookup_cons, beq_eq_false_iff_ne.2 h]
    · simp only [insert, hi, if_false, get?, List.lookup_cons] at ih ⊢
      cases other == i <;> simp_all

end Registry

end RelMap

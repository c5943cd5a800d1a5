-- SUMMARY: Declarations of structs, their fields and the types of these.
import RelMap.Derive.Token

/-!
# Declarations

An `Item` is a declaration as far as deriving looks at it. Types keep their
structure where it can decide what a field holds: paths with their arguments, and
the types within all other forms.
-/
namespace RelMap.Derive

/-- The forms of types that are neither paths nor wrapped. -/
inductive TypeForm where
  | reference
  | pointer
  | slice
  | array
  | tuple
  | function
  /-- Trait objects and types that are known by their traits. -/
  | traits
  /-- Paths that start from a type in angle brackets. -/
  | qualified
  | never
  | inferred
  | invocation
  deriving DecidableEq, Repr

mutual

/-- A type as it is written. -/
inductive Ty where
  /-- A type in invisible brackets. -/
  | group (elem : Ty)
  /-- A type in parentheses. -/
  | paren (elem : Ty)
  | path (rooted : Bool) (segments : List Segment)
  /-- Another form, with the types in it. -/
  | other (form : TypeForm) (parts : List Ty)

/-- A name in a path, with the arguments in angle brackets that it may have. -/
inductive Segment where
  | plain (name : String)
  | generic (name : String) (args : List Arg)

/-- An argument of a generic type. -/
inductive Arg where
  | type (t : Ty)
  /-- A lifetime, a constant or a binding, with the types in it. -/
  | other (parts : List Ty)

end

instance : Inhabited Ty := ⟨.other .inferred []⟩

/-- What an attribute says besides its path. -/
inductive Meta where
  | bare
  | value
  | arguments (tokens : List Token)

/-- An attribute: the path that names it, and what it says. -/
structure Attribute where
  rooted : Bool
  segments : List String
  content : Meta

/-- A named field, its type as structure and as the tokens that it is written with again. -/
structure Field where
  attributes : List Attribute
  name : String
  type : Ty
  typeTokens : List Token

/-- The fields of a struct. -/
inductive Fields where
  | named (fields : List Field)
  | unnamed
  | unit

/-- What is declared. -/
inductive Body where
  | struct (fields : Fields)
  | enumeration
  | union

/-- A declaration. -/
structure Item where
  name : String
  /-- How many generic parameters it has. -/
  parameters : Nat
  body : Body

end RelMap.Derive

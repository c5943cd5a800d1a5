-- SUMMARY: The models that structs declare.
import RelMap.Derive.Item
import RelMap.Derive.Reader

/-!
# Declared models

A struct with named fields and no generic parameters declares a model. The
attributes `db` and `option` of a field give its column and its options, each as one
text and at most once. Whether a field can be stored shows in how its type is
written.
-/
namespace RelMap.Derive

/-! ## Types of fields -/

/-- The names of types that can be stored. -/
def primitives : List String :=
  ["bool", "i8", "i16", "i32", "i64", "isize", "u8", "u16", "u32", "u64", "usize", "f32", "f64",
    "String", "Timestamp"]

/-- Whether a list of arguments is that of a list of bytes. -/
def isByteArgument : List Arg → Bool
  | [.type (.path false [.plain name])] => name == "u8"
  | _ => false

/-- Whether the last segment of a path names a type that can be stored. -/
def Segment.isStorable : Segment → Bool
  | .plain name => name ∈ primitives
  | .generic name args => name == "Vec" && isByteArgument args

/-- Whether fields of a type can be stored. -/
def Ty.isStorable : Ty → Bool
  | .group elem => elem.isStorable
  | .paren elem => elem.isStorable
  | .path _ segments => segments.getLast?.any Segment.isStorable
  | .other .. => false

/-! ## Attributes -/

/-- The attributes that fields of a model can have. -/
inductive Slot where
  | db
  | option
  deriving DecidableEq, Repr

/-- The name of an attribute. -/
def Slot.label : Slot → String
  | .db => "db"
  | .option => "option"

/-- The texts that attributes gave to a field. -/
structure Given where
  db : Option Literal := none
  option : Option Literal := none
  deriving DecidableEq, Repr

namespace Given

def get (g : Given) : Slot → Option Literal
  | .db => g.db
  | .option => g.option

def set (g : Given) (slot : Slot) (l : Literal) : Given :=
  match slot with
  | .db => { g with db := some l }
  | .option => { g with option := some l }

end Given

/-- Why a declaration is no model. -/
inductive DeriveError where
  | text (e : SyntaxError)
  | notStruct
  | unnamedFields
  | generic
  /-- An attribute stands a second time on a field. -/
  | duplicate
  deriving DecidableEq, Repr

def DeriveError.message : DeriveError → String
  | .text e => e.message
  | .notStruct => "\x60#[derive(Model)]\x60 is only supported on structs"
  | .unnamedFields => "model fields must be named"
  | .generic => "model generics are not supported"
  | .duplicate => "duplicate attribute"

namespace Attribute

/-- The slot that an attribute is for; other attributes are none of our business. -/
def slot? (a : Attribute) : Option Slot :=
  if a.rooted then none
  else if a.segments = ["db"] then some .db
  else if a.segments = ["option"] then some .option
  else none

/-- The one text that an attribute for a slot has as its argument. -/
def text (a : Attribute) (slot : Slot) : Except SyntaxError Literal :=
  match a.content with
  | .bare => .error (.bareAttribute slot.label)
  | .value => .error (.valueAttribute slot.label)
  | .arguments [] => .error (.expected ["string literal"] true)
  | .arguments (.literal l :: rest) =>
    if l.kind ≠ .string then .error (.expected ["string literal"] false)
    else if rest.isEmpty then .ok l
    else .error (.stray .invisible)
  | .arguments _ => .error (.expected ["string literal"] false)

end Attribute

/-- Take up attributes in order: what they gave, and what is wrong with them. -/
def takeAttributes (g : Given) : List Attribute → Given × List DeriveError
  | [] => (g, [])
  | a :: rest =>
    match a.slot? with
    | none => takeAttributes g rest
    | some slot =>
      match a.text slot with
      | .error e => let (g, errors) := takeAttributes g rest; (g, .text e :: errors)
      | .ok l =>
        if (g.get slot).isSome then
          let (g, errors) := takeAttributes g rest
          (g, .duplicate :: errors)
        else takeAttributes (g.set slot l) rest

/-! ## Models -/

/-- A field of a model. -/
structure ModelField where
  name : String
  given : Given
  typeTokens : List Token
  storable : Bool

/-- A model: the name of its type and its fields, in the order of declaration. -/
structure Model where
  name : String
  fields : List ModelField

namespace Field

/-- The field of a model that a field declares, and what is wrong with it. -/
def toModel (f : Field) : ModelField × List DeriveError :=
  let (given, errors) := takeAttributes {} f.attributes
  (⟨f.name, given, f.typeTokens, f.type.isStorable⟩, errors)

end Field

/-- The model that a declaration is, or everything that is wrong with it. -/
def Model.ofItem (item : Item) : Except (List DeriveError) Model :=
  match item.body with
  | .enumeration | .union => .error [.notStruct]
  | .struct .unnamed | .struct .unit => .error [.unnamedFields]
  | .struct (.named fields) =>
    if item.parameters ≠ 0 then .error [.generic]
    else
      match fields.flatMap (·.toModel.2) with
      | [] => .ok ⟨item.name, fields.map (·.toModel.1)⟩
      | errors => .error errors

end RelMap.Derive

-- SUMMARY: The code that is derived from a struct: definitions of its fields.
import RelMap.Derive.ItemReader
import RelMap.Derive.Model

/-!
# The derived code

The expansion of a model is a block of its own, so that the names in it clash with
no others. It lists a definition for every field: its index, its name, the texts of
its attributes, and, if it can be stored, its kind with a getter and a setter.
-/
namespace RelMap.Derive

open Token (op sign colons quoted parens braces brackets)

/-- A word. -/
abbrev word (s : String) : Token := .ident s

/-- A name of the library that supports derived code. -/
def support (name : String) : List Token :=
  word "_tabula" :: colons ++ [word "codegen_support"] ++ colons ++ [word name]

/-- A list of arguments in angle brackets. -/
def angle (tokens : List Token) : List Token := sign '<' :: tokens ++ [sign '>']

/-- A type as the storable type that it is. -/
def asPrimitive (type : List Token) : List Token :=
  angle (type ++ word "as" :: support "Primitive") ++ colons

/-- An optional text. -/
def optionTokens : Option Literal → List Token
  | some l => [word "Some", parens [.literal l]]
  | none => [word "None"]

/-- A definition with a value: a name, a colon, the value, and a comma. -/
def entry (name : String) (value : List Token) : List Token :=
  word name :: sign ':' :: value ++ [sign ',']

namespace ModelField

/-- The access to the field of an instance. -/
def access (f : ModelField) : List Token := [word "model", sign '.', word f.name]

/-- The function that reads the field. -/
def getter (f : ModelField) (model : String) : List Token :=
  [sign '|', word "model", sign ':', sign '&', word model, sign '|'] ++ op ['-', '>'] ++
    support "Value" ++
    [braces (asPrimitive f.typeTokens ++ [word "to_value", parens (sign '&' :: f.access)])]

/-- The function that writes the field. -/
def setter (f : ModelField) (model : String) : List Token :=
  [sign '|', word "model", sign ':', sign '&', word "mut", word model, sign ',', word "value",
      sign ':'] ++
    support "Value" ++ sign '|' :: op ['-', '>'] ++ support "Result" ++ angle [parens []] ++
    [braces (f.access ++ sign '=' :: asPrimitive f.typeTokens ++
      [word "load", parens [word "value"], sign '?', sign ';', word "Ok", parens [parens []]])]

/-- The kind of the field. -/
def kindTokens (f : ModelField) : List Token :=
  if f.storable then asPrimitive f.typeTokens ++ [word "KIND"]
  else support "Kind" ++ colons ++ [word "Unsupported"]

/-- The getter and the setter of a field that can be stored. -/
def accessor (f : ModelField) (model : String) : List Token :=
  if f.storable then
    [word "Some", parens (support "Accessor" ++ colons ++ angle [word model] ++
      [braces (entry "get" (f.getter model) ++ entry "set" (f.setter model))])]
  else [word "None"]

/-- The definition of the field with a given index, in the model of a given name. -/
def definition (f : ModelField) (model : String) (index : Nat) : List Token :=
  support "FieldDef" ++
    [braces (entry "index" [.literal ⟨.number, Digits.natText index ++ "usize"⟩] ++
      entry "name" [quoted f.name] ++ entry "db" (optionTokens f.given.db) ++
      entry "option" (optionTokens f.given.option) ++ entry "kind" f.kindTokens ++
      entry "accessor" (f.accessor model))]

end ModelField

namespace Model

/-- The definitions of the fields from index `i` on, each with a comma after it. -/
def definitions (model : String) : Nat → List ModelField → List Token
  | _, [] => []
  | i, f :: rest => f.definition model i ++ sign ',' :: definitions model (i + 1) rest

/-- The derived code. -/
def expansion (m : Model) : List Token :=
  [word "const", word "_", sign ':', parens [], sign '=', braces (
    [word "use", word "tabula", word "as", word "_tabula", sign ';', word "impl"] ++
      support "Model" ++
      [word "for", word m.name, braces (
        [word "fn", word "fields", parens []] ++ op ['-', '>'] ++
          [word "Vec", sign '<'] ++ support "FieldDef" ++ [sign '<', word "Self"] ++
          op ['>', '>'] ++
          [braces [word "vec", sign '!', brackets (definitions m.name 0 m.fields)]])]), sign ';']

end Model

/-- The code that is derived from the declaration in a text, or everything that is
wrong with it. -/
def derive (source : String) : Except (List DeriveError) String :=
  match Item.ofText source with
  | .error e => .error [.text e]
  | .ok item =>
    match Model.ofItem item with
    | .ok m => .ok (String.ofList (Token.render m.expansion))
    | .error errors => .error errors

end RelMap.Derive

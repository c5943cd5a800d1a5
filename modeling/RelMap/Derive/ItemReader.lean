-- SUMMARY: Reading declarations of structs, enumerations and unions.
import RelMap.Derive.Lexer
import RelMap.Derive.TypeReader

/-!
# Reading declarations

`Item.ofText` reads the declaration that a text consists of. Of what deriving does
not look at, only the form is checked.
-/
namespace RelMap.Derive

namespace Reader

/-- Read how visible something is. -/
def visibility : Reader Unit := do
  if ← word? "pub" then
    match ← ahead with
    | .group .parenthesis (.ident "in" :: _) :: _ =>
      within .parenthesis do
        word "in"
        let _ ← plainPath
    | .group .parenthesis [.ident w] :: _ => if w ∈ ["crate", "self", "super"] then take 1
    | _ => pure ()

/-! ## Generic parameters -/

/-- Read a parameter that stands for a type. -/
def typeParameter : Reader Unit := do
  let _ ← anyWord
  let stop := fun ts => closesElement ts || Ahead.op ['='] ts
  if ← op? ":" then
    let _ ← separated stop "+" parameterBound (← limit)
  if ← op? "=" then
    let _ ← type

/-- Read a parameter that stands for a constant. -/
def constantParameter : Reader Unit := do
  word "const"
  let _ ← name
  op ":"
  let _ ← type
  if ← op? "=" then constant

/-- Read a generic parameter. -/
def parameter : Reader Unit := do
  let _ ← attributes
  let ts ← ahead
  if Ahead.lifetime ts then lifetimeParameter
  else if Ahead.name ts || Ahead.word "_" ts then typeParameter
  else if Ahead.word "const" ts then constantParameter
  else missing ["lifetime", "identifier", shown "const"]

/-- Read generic parameters, if there are any, and count them. -/
def parameters : Reader Nat := do
  if ← op? "<" then
    let ps ← listed closes parameter (← limit)
    op ">"
    return ps.length
  else return 0

/-- Whether a colon is next that separates no path. -/
def colonAhead (ts : List Token) : Bool := Ahead.op [':'] ts && !Ahead.colons ts

/-- Whether the constraints of a declaration end here. -/
def constraintsEnd (ts : List Token) : Bool :=
  ts.isEmpty || Ahead.group .brace ts || Ahead.op [','] ts || Ahead.op [';'] ts ||
    colonAhead ts || Ahead.op ['='] ts

/-- Read a constraint. -/
def constraint : Reader Unit := do
  if ← next fun ts => Ahead.lifetime ts && Ahead.op [':'] (ts.drop 1) then
    lifetime
    op ":"
    let _ ← separated constraintsEnd "+" lifetime (← limit)
  else
    if ← next (Ahead.word "for") then binder
    let _ ← type
    op ":"
    let _ ← separated constraintsEnd "+" parameterBound (← limit)

/-- Whether generic parameters seem to be next. -/
def parametersAhead : List Token → Bool
  | .punct '<' _ :: rest =>
    closes rest || Ahead.op ['#'] rest || Ahead.word "const" rest ||
      ((Ahead.lifetime rest || Ahead.name rest) &&
        (closesElement (rest.drop 1) || colonAhead (rest.drop 1) || Ahead.op ['='] (rest.drop 1)))
  | _ => false

/-- Read the constraints of a declaration. -/
def constraints : Reader Unit := do
  word "where"
  if ← next parametersAhead then
    throw (.rule "generic parameters on \x60where\x60 clauses are reserved for future use")
  let _ ← separated constraintsEnd "," constraint (← limit)

/-! ## Fields -/

/-- Read a field with a name. -/
def namedField : Reader Field := do
  let attributes ← attributes
  visibility
  let name ← if ← next (Ahead.word "_") then anyWord else name
  op ":"
  let (type, typeTokens) ← aside type
  return { attributes, name, type, typeTokens }

/-- Read fields with names. -/
def namedFields : Reader (List Field) := within .brace (terminated namedField)

/-- Read fields without names. -/
def unnamedFields : Reader Unit := do
  let field : Reader Unit := do
    let _ ← attributes
    visibility
    let _ ← type
  let _ ← within .parenthesis (terminated field)

/-! ## Declarations -/

/-- Read the fields of a struct that has its constraints behind it, if any. -/
def unnamedStruct : Reader Fields := do
  unnamedFields
  if ← next (Ahead.word "where") then
    constraints
    if ← op? ";" then return .unnamed else missing [shown ";"]
  else if ← op? ";" then return .unnamed
  else missing [shown "where", shown ";"]

/-- Read the fields of a struct. -/
def structFields : Reader Fields := do
  let constrained ← next (Ahead.word "where")
  if constrained then constraints
  let ts ← ahead
  if !constrained && Ahead.group .parenthesis ts then unnamedStruct
  else if Ahead.group .brace ts then return .named (← namedFields)
  else if ← op? ";" then return .unit
  else if constrained then missing ["curly braces", shown ";"]
  else missing [shown "where", "parentheses", "curly braces", shown ";"]

/-- Read a variant of an enumeration. -/
def variant : Reader Unit := do
  let _ ← attributes
  visibility
  let _ ← name
  let ts ← ahead
  if Ahead.group .brace ts then
    let _ ← namedFields
  else if Ahead.group .parenthesis ts then unnamedFields
  if ← op? "=" then expression

/-- Read a declaration. -/
def item : Reader Item := do
  let _ ← attributes
  visibility
  if ← word? "struct" then
    let name ← name
    let parameters ← parameters
    return ⟨name, parameters, .struct (← structFields)⟩
  else if ← word? "enum" then
    let name ← name
    let parameters ← parameters
    if ← next (Ahead.word "where") then constraints
    let _ ← within .brace (terminated variant)
    return ⟨name, parameters, .enumeration⟩
  else if ← word? "union" then
    let name ← name
    let parameters ← parameters
    if ← next (Ahead.word "where") then constraints
    let _ ← namedFields
    return ⟨name, parameters, .union⟩
  else missing [shown "struct", shown "enum", shown "union"]

end Reader

/-- The declaration that a text consists of. -/
def Item.ofText (s : String) : Except SyntaxError Item :=
  match Lexer.tokens? s with
  | some tokens => Reader.item.run tokens
  | none => .error .lexical

end RelMap.Derive

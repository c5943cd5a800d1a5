-- SUMMARY: Values written as literals of their variant.
import RelMap.Text.Quoted
import RelMap.Value

/-!
# Value literals

`Value.literal` writes a value as the name of its variant around its content, as
diagnostic texts show it.
-/
namespace RelMap.Value

/-- Texts in brackets, with commas between them. -/
def bracketed (items : List String) : String := "[" ++ ", ".intercalate items ++ "]"

mutual

/-- The value as the name of its variant around its content. -/
def literal : Value → String
  | .bool b => "Bool(" ++ (if b then "true" else "false") ++ ")"
  | .int n => n.type.label ++ "(" ++ Digits.intText n.val ++ ")"
  | .f32 x => "F32(" ++ String.ofList x.literalText ++ ")"
  | .f64 x => "F64(" ++ String.ofList x.literalText ++ ")"
  | .string s => "String(" ++ Quoted.text s ++ ")"
  | .bytes b => "Bytes(" ++ bracketed (b.map fun n => Digits.natText n.toNat) ++ ")"
  | .timestamp t => "Timestamp(" ++ String.ofList t.text ++ ")"
  | .list items => "List(" ++ bracketed (literals items) ++ ")"
  | .null => "Null"

/-- `literal` of each value. -/
def literals : List Value → List String
  | [] => []
  | v :: vs => v.literal :: literals vs

end

end RelMap.Value

-- SUMMARY: Dynamically typed values of columns and statement arguments.
import RelMap.Number.FloatText
import RelMap.Time.Iso

/-!
# Values

A `Value` is what a field yields as a statement argument and what a driver returns
from a column. Every variant has a zero, which a sparse update leaves out.
-/
namespace RelMap

abbrev Bytes := List UInt8

/-- A value of a column. -/
inductive Value where
  | bool (b : Bool)
  | int (n : FixedInt)
  | f32 (x : Binary32)
  | f64 (x : Binary64)
  | string (s : String)
  | bytes (b : Bytes)
  | timestamp (t : Timestamp)
  /-- Several values, bound as one argument. -/
  | list (items : List Value)
  | null

instance : Inhabited Value := ⟨.null⟩

/-- The text that a byte sequence encodes in UTF-8. -/
def Bytes.text? (b : Bytes) : Option String := String.fromUTF8? ⟨b.toArray⟩

/-- The UTF-8 encoding of a text. -/
def Bytes.ofText (s : String) : Bytes := s.toUTF8.data.toList

@[simp] theorem Bytes.text?_ofText (s : String) : (Bytes.ofText s).text? = some s := by
  simp only [Bytes.text?, Bytes.ofText, Array.toArray_toList]
  exact dif_pos s.isValidUTF8

namespace Value

/-- The integer `n` at type `t`, with a proof that it fits. -/
def ofInt (t : IntType) (n : Int) (h : t.Holds n) : Value := .int ⟨t, n, h⟩

/-- The name of the variant. -/
def variantName : Value → String
  | .bool _ => "Bool"
  | .int n => n.type.label
  | .f32 _ => "F32"
  | .f64 _ => "F64"
  | .string _ => "String"
  | .bytes _ => "Bytes"
  | .timestamp _ => "Timestamp"
  | .list _ => "List"
  | .null => "Null"

def isNull : Value → Bool
  | .null => true
  | _ => false

def isList : Value → Bool
  | .list _ => true
  | _ => false

/-- Whether the value is the zero of its variant. -/
def isZero : Value → Bool
  | .bool b => !b
  | .int n => n.val == 0
  | .f32 x => x.isZero
  | .f64 x => x.isZero
  | .string s => s.isEmpty
  | .bytes b => b.isEmpty
  | .timestamp t => t.nanos == 0
  | .list items => items.isEmpty
  | .null => true

/-- The text of a string. -/
def string? : Value → Option String
  | .string s => some s
  | _ => none

/-- The integer of any integer variant. -/
def int? : Value → Option Int
  | .int n => some n.val
  | _ => none

/-- The integer of any integer variant, if it fits in 64 bits with a sign. -/
def int64? (v : Value) : Option Int :=
  v.int?.bind fun n => if IntType.i64.Holds n then some n else none

@[simp] theorem isNull_iff {v : Value} : v.isNull = true ↔ v = .null := by
  cases v <;> simp [isNull]

end Value

end RelMap

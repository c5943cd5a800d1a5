-- SUMMARY: The kinds of fields.
import RelMap.Number.IntType

/-!
# Kinds

The kind of a field fixes which values it holds. `isize` and `usize` fields are as
wide as a pointer, 64 bits, and are stored as 64-bit integers. A field of an
unsupported kind maps to no column.
-/
namespace RelMap

/-- The kind of a field. -/
inductive Kind where
  | bool
  | int (type : IntType)
  | isize
  | usize
  | f32
  | f64
  | string
  | bytes
  | timestamp
  | unsupported
  deriving DecidableEq, Repr

namespace Kind

/-- The integer type that a field of the kind is stored at. -/
def intType? : Kind → Option IntType
  | .int t => some t
  | .isize => some .i64
  | .usize => some .u64
  | _ => none

def isSupported (k : Kind) : Bool := k != .unsupported

def isInteger (k : Kind) : Bool := k.intType?.isSome

/-- The type name of the fields, as errors call it. -/
def typeName : Kind → String
  | .bool => "bool"
  | .int t => t.name
  | .isize => "isize"
  | .usize => "usize"
  | .f32 => "f32"
  | .f64 => "f64"
  | .string => "String"
  | .bytes => "Vec<u8>"
  | .timestamp => "Timestamp"
  | .unsupported => "unsupported"

end Kind

end RelMap

-- SUMMARY: The native values of fields, and how they are read from driver values.
import RelMap.Coercion

/-!
# Native values

`Kind.Native` is the type of the fields of a kind. A native value shows as a `Value` of the
variant that the kind is stored as, and is read from what coercion yields. A pointer is 64 bits
wide, so no 64-bit integer is out of the range of `isize` or `usize`.
-/
namespace RelMap

/-- The integers of a fixed-width type. -/
abbrev IntType.Integer (t : IntType) : Type := {n : Int // t.Holds n}

/-- The integer, if it is of the type `t`. -/
def FixedInt.at? (t : IntType) (n : FixedInt) : Option t.Integer :=
  if h : n.type = t then some ⟨n.val, h ▸ n.holds⟩ else none

namespace Kind

/-- The type of the fields of a kind. Fields of an unsupported kind hold nothing that can be
read or written. -/
abbrev Native : Kind → Type
  | .bool => Bool
  | .int t => t.Integer
  | .isize => IntType.i64.Integer
  | .usize => IntType.u64.Integer
  | .f32 => Binary32
  | .f64 => Binary64
  | .string => String
  | .bytes => Bytes
  | .timestamp => Timestamp
  | .unsupported => Empty

namespace Native

/-- The value that a field shows as. -/
def toValue : {k : Kind} → k.Native → Value
  | .bool, b => .bool b
  | .int t, n => .ofInt t n.val n.property
  | .isize, n => .ofInt .i64 n.val n.property
  | .usize, n => .ofInt .u64 n.val n.property
  | .f32, x => .f32 x
  | .f64, x => .f64 x
  | .string, s => .string s
  | .bytes, b => .bytes b
  | .timestamp, t => .timestamp t
  | .unsupported, x => nomatch x

/-- The native value that a value of the kind's own variant holds. -/
def ofValue? : (k : Kind) → Value → Option k.Native
  | .bool, .bool b => some b
  | .int t, .int n => n.at? t
  | .isize, .int n => n.at? .i64
  | .usize, .int n => n.at? .u64
  | .f32, .f32 x => some x
  | .f64, .f64 x => some x
  | .string, .string s => some s
  | .bytes, .bytes b => some b
  | .timestamp, .timestamp t => some t
  | _, _ => none

end Native

/-- The native value that a field of the kind is set to; null is refused. -/
def read (k : Kind) (v : Value) : Result k.Native :=
  match k.coerce v with
  | .error e => .error e
  | .ok w =>
    match w.bind (Native.ofValue? k) with
    | some x => .ok x
    | none => .error (k.mismatch v)

end Kind

end RelMap

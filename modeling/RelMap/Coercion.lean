-- SUMMARY: Conversion of driver values to the representation of a field's kind.
import RelMap.Error
import RelMap.Kind
import RelMap.Value
import RelMap.Text.Blank

/-!
# Coercion

A driver returns values of whatever variant the database stores. `Kind.coerce`
takes one to the representation of a field's kind: exactly, or not at all. Null
is not a value of any kind, it leaves a field as it is. `Kind.load` is coercion
where null is refused, and so is what no field of the kind is stored as.
-/
namespace RelMap

/-- The truth value that a text spells. -/
def parseBool? (s : String) : Option Bool :=
  if s ∈ ["1", "t", "T", "TRUE", "true", "True"] then some true
  else if s ∈ ["0", "f", "F", "FALSE", "false", "False"] then some false
  else none

namespace Value

/-- The truth value of a boolean, of one or zero, or of their spellings. -/
def toBool? : Value → Option Bool
  | .bool b => some b
  | .string s => parseBool? s
  | .bytes b => b.text?.bind parseBool?
  | .int n => if n.val = 1 then some true else if n.val = 0 then some false else none
  | _ => none

/-- The integer of type `t` that the value is: a boolean is one or zero, a text is
trimmed and read in decimal notation. -/
def toInt? (t : IntType) : Value → Option FixedInt
  | .bool b => FixedInt.ofInt? t (if b then 1 else 0)
  | .int n => FixedInt.ofInt? t n.val
  | .string s => (Digits.toInt? t.signed (Text.trim s.toList)).bind (FixedInt.ofInt? t)
  | _ => none

/-- The 64-bit float nearest to a number or to the number that a text spells. -/
def toFloat? : Value → Option Binary64
  | .f32 x => some x.widen
  | .f64 x => some x
  | .int n => some (.ofInt n.val)
  | .string s => Binary64.ofText? (Text.trim s.toList)
  | _ => none

/-- The text of any value but a list. Bytes have to be valid UTF-8. -/
def toText? : Value → Option String
  | .string s => some s
  | .bytes b => b.text?
  | .bool b => some (if b then "true" else "false")
  | .int n => some (Digits.intText n.val)
  | .f32 x => some (String.ofList x.text)
  | .f64 x => some (String.ofList x.text)
  | .timestamp t => some (String.ofList t.text)
  | _ => none

/-- The bytes of a byte sequence or of a text. -/
def toBytes? : Value → Option Bytes
  | .bytes b => some b
  | .string s => some (Bytes.ofText s)
  | _ => none

/-- The instant of a timestamp, of a text, or of a count of seconds. -/
def toTimestamp? : Value → Option Timestamp
  | .timestamp t => some t
  | .string s => Iso.read? (Text.trim s.toList)
  | v => v.int64?.bind Timestamp.ofSeconds?

/-- A count of seconds that no timestamp reaches. -/
def isDistantSeconds (v : Value) : Bool :=
  match v.int64? with
  | some n => (Timestamp.ofSeconds? n).isNone
  | none => false

end Value

namespace Kind

/-- The value in the representation of the kind, if it has one. -/
def convert? (k : Kind) (v : Value) : Option Value :=
  match k with
  | .bool => v.toBool?.map .bool
  | .int t => (v.toInt? t).map .int
  | .isize => (v.toInt? .i64).map .int
  | .usize => (v.toInt? .u64).map .int
  | .f32 =>
    match v with
    | .f32 x => some (.f32 x)
    | v => v.toFloat?.map fun x => .f32 x.narrow
  | .f64 => v.toFloat?.map .f64
  | .string => v.toText?.map .string
  | .bytes => v.toBytes?.map .bytes
  | .timestamp => v.toTimestamp?.map .timestamp
  | .unsupported => none

/-- The error of a count of seconds that no timestamp reaches. -/
def distantSeconds : Error :=
  .ofCause (.foreign ("parameter 'Unix timestamp seconds' is not in the required range of " ++
    Digits.intText Timestamp.minSeconds ++ "..=" ++ Digits.intText Timestamp.maxSeconds) [])

/-- The error of a value that has no representation of the kind. -/
def mismatch (k : Kind) (v : Value) : Error := .typeConversion v.variantName k.typeName

/-- The value in the representation of the kind; nothing for null. -/
def coerce (k : Kind) (v : Value) : Result (Option Value) :=
  if v.isNull then .ok none
  else
    match k.convert? v with
    | some w => .ok (some w)
    | none =>
      if k = .timestamp ∧ v.isDistantSeconds then .error distantSeconds
      else .error (k.mismatch v)

/-- Whether the value is of the variant that fields of the kind are stored as. -/
def represents (k : Kind) : Value → Bool
  | .bool _ => k == .bool
  | .int n => k.intType? == some n.type
  | .f32 _ => k == .f32
  | .f64 _ => k == .f64
  | .string _ => k == .string
  | .bytes _ => k == .bytes
  | .timestamp _ => k == .timestamp
  | .list _ | .null => false

/-- The value that a field of the kind is loaded with; null is refused. -/
def load (k : Kind) (v : Value) : Result Value :=
  match k.coerce v with
  | .ok (some w) => if k.represents w then .ok w else .error (k.mismatch v)
  | .ok none => .error (k.mismatch v)
  | .error e => .error e

/-- The value that a field of the kind starts with; null where there is no field
to read. -/
def default : Kind → Value
  | .bool => .bool false
  | .int t => .int (.zero t)
  | .isize => .int (.zero .i64)
  | .usize => .int (.zero .u64)
  | .f32 => .f32 .zero
  | .f64 => .f64 .zero
  | .string => .string ""
  | .bytes => .bytes []
  | .timestamp => .timestamp .epoch
  | .unsupported => .null

end Kind

end RelMap

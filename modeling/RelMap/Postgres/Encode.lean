-- SUMMARY: The binary form in which values are sent as PostgreSQL parameters.
import RelMap.Number.BigEndian
import RelMap.Number.IntType
import RelMap.Postgres.Type
import RelMap.Value.Literal

/-!
# PostgreSQL parameters

`encode` writes a value as a parameter of the type that the server inferred.
Integers and booleans take the width of that type, or fail; numbers at text types
are written as text; timestamps count microseconds from 2000-01-01.
-/
namespace RelMap.Postgres

/-- Microseconds from the Unix epoch to 2000-01-01. -/
def epochMicros : Int := 946684800000000

/-- Why a value cannot be sent at a type. -/
inductive EncodeError where
  /-- Parameters of the type cannot be sent. -/
  | type (ty : PgType)
  /-- The value, as it shows in diagnostics, has no form at the type. -/
  | mismatch (shown : String) (ty : PgType)
  | tooLarge
  | tooSmall
  | list (ty : PgType)
  deriving DecidableEq, Repr

def EncodeError.message : EncodeError → String
  | .type ty =>
    "cannot convert between the Rust type \x60tabula_driver_postgresql::value::Value<'_>\x60 " ++
      "and the Postgres type \x60" ++ ty.label ++ "\x60"
  | .mismatch shown ty => "cannot bind " ++ shown ++ " as " ++ ty.label
  | .tooLarge => "number too large to fit in target type"
  | .tooSmall => "number too small to fit in target type"
  | .list ty => "lists must be expanded before binding; ty=" ++ ty.label

namespace PgType

/-- The integers of an integer type. -/
def intType? : PgType → Option IntType
  | .int2 => some .i16
  | .int4 => some .i32
  | .int8 => some .i64
  | _ => none

/-- Whether numbers are sent at the type as text. -/
def isText : PgType → Bool
  | .text | .varchar => true
  | _ => false

end PgType

/-- Text as it is sent. -/
def encodeText (cs : List Char) : Bytes := .ofText (String.ofList cs)

/-- An integer in the bytes of an integer type that holds it. -/
def encodeInt (t : IntType) (n : Int) : Except EncodeError Bytes :=
  if t.max < n then .error .tooLarge
  else if n < t.min then .error .tooSmall
  else .ok (BigEndian.ofInt (t.bits / 8) n)

/-- A 32-bit number. -/
def encodeSingle (x : Binary32) : Bytes := BigEndian.ofNat 4 x.toBits.toNat

/-- A 64-bit number. -/
def encodeDouble (x : Binary64) : Bytes := BigEndian.ofNat 8 x.toBits.toNat

/-- An instant in whole microseconds from 2000-01-01, rounded toward 1970. -/
def encodeTimestamp (t : Timestamp) : Bytes := BigEndian.ofInt 8 (t.micros - epochMicros)

/-- A value at a type that parameters can have; none is null. -/
def encodeAt (ty : PgType) (v : Value) : Except EncodeError (Option Bytes) :=
  match v with
  | .bool b =>
    let shown := if b then "true" else "false"
    match ty.intType? with
    | some t => some <$> encodeInt t (if b then 1 else 0)
    | none =>
      if ty = .bool then .ok (some [if b then 1 else 0])
      else if ty.isText then .ok (some (.ofText shown))
      else .error (.mismatch shown ty)
  | .int n =>
    match ty.intType? with
    | some t => some <$> encodeInt t n.val
    | none =>
      if ty.isText then .ok (some (encodeText (Digits.ofInt n.val)))
      else .error (.mismatch v.literal ty)
  | .f32 x => .ok (some (if ty = .float8 then encodeDouble x.widen else encodeSingle x))
  | .f64 x => .ok (some (if ty = .float4 then encodeSingle x.narrow else encodeDouble x))
  | .string s => .ok (some (.ofText s))
  | .bytes b => .ok (some b)
  | .timestamp t => .ok (some (if ty.isText then encodeText t.text else encodeTimestamp t))
  | .list _ => .error (.list ty)
  | .null => .ok none

/-- A value as a parameter. The type is checked before the value is looked at. -/
def encode (ty : PgType) (v : Value) : Except EncodeError (Option Bytes) :=
  if ty.isAccepted then encodeAt ty v else .error (.type ty)

/-! ## Laws -/

/-- An integer is sent exactly when the type holds it. -/
theorem encodeInt_eq_ok_iff {t : IntType} {n : Int} {b : Bytes} :
    encodeInt t n = .ok b ↔ t.Holds n ∧ b = BigEndian.ofInt (t.bits / 8) n := by
  unfold encodeInt IntType.Holds
  split
  · simp only [reduceCtorEq, false_iff, not_and]; omega
  · split
    · simp only [reduceCtorEq, false_iff, not_and]; omega
    · simp only [Except.ok.injEq, eq_comm (a := b), iff_and_self]; omega

end RelMap.Postgres

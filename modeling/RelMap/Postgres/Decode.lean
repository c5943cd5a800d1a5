-- SUMMARY: Reading the binary form of PostgreSQL columns.
import RelMap.Postgres.Encode
import RelMap.Text.Utf8

/-!
# PostgreSQL columns

`decode?` reads the bytes of a column of a given type. Columns of fixed size must
have exactly that many bytes, text must be UTF-8, and timestamps must be in range.
-/
namespace RelMap.Postgres

/-- Why a column cannot be read. -/
inductive DecodeError where
  /-- Fewer bytes than the type has. -/
  | short
  /-- Not as many bytes as the type has. -/
  | size
  | text (fault : Utf8.Fault)
  /-- Microseconds from 2000-01-01 that no timestamp reaches. -/
  | timestamp (micros : Int)
  deriving DecidableEq, Repr

def DecodeError.message : DecodeError → String
  | .short => "failed to fill whole buffer"
  | .size => "invalid buffer size"
  | .text fault => fault.message
  | .timestamp micros => "timestamp out of range; micros=" ++ Digits.intText micros

/-- The bytes of a column of fixed size. -/
def decodeFixed (width : Nat) (b : Bytes) : Except DecodeError Bytes :=
  if b.length < width then .error .short
  else if width < b.length then .error .size
  else .ok b

/-- The integer of an integer type. -/
def decodeInt (t : IntType) (b : Bytes) : Except DecodeError FixedInt :=
  (fun b => FixedInt.wrap t (BigEndian.toNat b)) <$> decodeFixed (t.bits / 8) b

/-- A 32-bit number. -/
def decodeSingle (b : Bytes) : Except DecodeError Binary32 :=
  (fun b => Binary32.ofBits (UInt32.ofNat (BigEndian.toNat b))) <$> decodeFixed 4 b

/-- A 64-bit number. -/
def decodeDouble (b : Bytes) : Except DecodeError Binary64 :=
  (fun b => Binary64.ofBits (UInt64.ofNat (BigEndian.toNat b))) <$> decodeFixed 8 b

/-- The instant at a number of microseconds from 2000-01-01. -/
def timestampOf (micros : Int) : Except DecodeError Timestamp :=
  match Timestamp.ofNanos? ((micros + epochMicros) * 1000) with
  | some t => .ok t
  | none => .error (.timestamp micros)

/-- An instant in microseconds from 2000-01-01. -/
def decodeTimestamp (b : Bytes) : Except DecodeError Timestamp :=
  match decodeInt .i64 b with
  | .ok n => timestampOf n.val
  | .error e => .error e

/-- A column that is not null; none for types that cannot be read. -/
def decodeBytes? (ty : PgType) (b : Bytes) : Option (Except DecodeError Value) :=
  match ty with
  | .bool => some <|
    match b with
    | [n] => .ok (.bool (n != 0))
    | _ => .error .size
  | .int2 => some (.int <$> decodeInt .i16 b)
  | .int4 => some (.int <$> decodeInt .i32 b)
  | .int8 => some (.int <$> decodeInt .i64 b)
  | .float4 => some (.f32 <$> decodeSingle b)
  | .float8 => some (.f64 <$> decodeDouble b)
  | .text | .varchar | .bpchar | .name => some <|
    match b.text? with
    | some s => .ok (.string s)
    | none => .error (.text (Utf8.fault b))
  | .bytea => some (.ok (.bytes b))
  | .timestamp | .timestamptz => some (.timestamp <$> decodeTimestamp b)
  | .numeric | .date | .json | .uuid | .int4Array => none

/-- A column, none being null; none for types that cannot be read. -/
def decode? (ty : PgType) (b : Option Bytes) : Option (Except DecodeError Value) :=
  match b with
  | some b => decodeBytes? ty b
  | none => if ty.isReadable then some (.ok .null) else none

end RelMap.Postgres

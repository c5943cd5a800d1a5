-- SUMMARY: Coercion with a converter for each kind, and the errors that the converters raise.
import RelMap.Proofs.Native
import RelMap.Proofs.Number.Numerals

/-!
# Errors of coercion

Each kind has a converter that takes values apart, and a converter raises its own errors: of the
value or of what it has made of it by then, under the type name of the kind or under one of its own.
Main statements: all of them raise the error of `Kind.coerce`; that error names the variant of the
value and the type of the kind, but for a count of seconds that no timestamp reaches, whose error
is of no category; and reading a native value fails with it, or because of null.
-/
namespace RelMap

/-! ## Converters -/

/-- What has been found, or the error if there is nothing. -/
def require {α : Type} (e : Error) : Option α → Result α
  | some x => .ok x
  | none => .error e

namespace Value

/-- The error of a value that is not what it is taken for. -/
def unfit (v : Value) (target : String) : Error := .typeConversion v.variantName target

def intoText : Value → Result String
  | .string s => .ok s
  -- The bytes have been given away by now: they come back out of the failed decoding.
  | .bytes b => require (unfit (.bytes b) "String") b.text?
  | .bool b => .ok (if b then "true" else "false")
  | .f32 x => .ok (String.ofList x.text)
  | .f64 x => .ok (String.ofList x.text)
  | .timestamp t => .ok (String.ofList t.text)
  | v => require (v.unfit "String") (v.int?.map Digits.intText)

def intoBytes : Value → Result Bytes
  | .bytes b => .ok b
  | .string s => .ok (Bytes.ofText s)
  | v => .error (v.unfit "Vec<u8>")

def intoBool (v : Value) : Result Bool := require (v.unfit "bool") v.toBool?

/-- The integer of type `t`, for fields of the kind `k`. -/
def intoInt (t : IntType) (k : Kind) : Value → Result FixedInt
  | .string s => require (unfit (.string s) k.typeName) (t.ofText? (Text.trim s.toList))
  | v => require (v.unfit k.typeName) (v.whole?.bind (FixedInt.ofInt? t))

/-- The integer as one that is as wide as a pointer, for fields of the kind `k`. By now it is of a
type of 64 bits, whatever it was before. -/
def intoPointer (pointer : IntType) (k : Kind) (n : FixedInt) : Result FixedInt :=
  if pointer.Holds n.val then .ok n else .error (unfit (.int n) k.typeName)

/-- The float of 64 bits, for fields of the kind `k`. -/
def intoFloat (k : Kind) : Value → Result Binary64
  | .f32 x => .ok x.widen
  | .f64 x => .ok x
  | .string s => require (unfit (.string s) k.typeName) (Binary64.ofText? (Text.trim s.toList))
  | v => require (v.unfit k.typeName) (v.int?.map .ofInt)

def intoTimestamp : Value → Result Timestamp
  | .timestamp t => .ok t
  | .string s => require (unfit (.string s) "Timestamp") (Iso.read? (Text.trim s.toList))
  | v => do
    let n ← require (v.unfit "Timestamp") v.int64?
    -- This error is the calendar's own.
    require Kind.distantSeconds (Timestamp.ofSeconds? n)

end Value

namespace Kind

/-- The value that the converter of the kind makes of a value. -/
def converted (k : Kind) (v : Value) : Result Value :=
  match k with
  | .string => v.intoText.map .string
  | .bytes => v.intoBytes.map .bytes
  | .bool => v.intoBool.map .bool
  | .int t => (v.intoInt t k).map .int
  | .isize => ((v.intoInt .i64 k).bind (Value.intoPointer .i64 k)).map .int
  | .usize => ((v.intoInt .u64 k).bind (Value.intoPointer .u64 k)).map .int
  | .f32 => (v.intoFloat k).map fun x => .f32 x.narrow
  | .f64 => (v.intoFloat k).map .f64
  | .timestamp => v.intoTimestamp.map .timestamp
  | .unsupported => .error (v.unfit k.typeName)

/-- Conversion by the converter of the kind; nothing for null. -/
def convert (k : Kind) (v : Value) : Result (Option Value) :=
  if v.isNull then .ok none else (k.converted v).map some

end Kind

/-! ## What the converters find and raise -/

theorem Timestamp.ofSeconds?_eq_none_iff {n : Int} :
    Timestamp.ofSeconds? n = none ↔ ¬(-377705023201 ≤ n ∧ n ≤ 253402207200) := by
  unfold Timestamp.ofSeconds?
  split
  · next h => exact iff_of_false (Option.some_ne_none _) (not_not_intro h)
  · next h => exact iff_of_true rfl h

theorem map_require {α β : Type} (f : α → β) (e : Error) (x : Option α) :
    (require e x).map f = require e (x.map f) := by
  cases x <;> rfl

namespace Value

variable (v : Value) (t : IntType) (k : Kind)

theorem intoText_eq : v.intoText = require (Kind.string.mismatch v) v.toText? := by
  cases v <;> rfl

theorem intoBytes_eq : v.intoBytes = require (Kind.bytes.mismatch v) v.toBytes? := by
  cases v <;> rfl

theorem intoInt_eq : v.intoInt t k = require (k.mismatch v) (v.toInt? t) := by
  cases v with
  | string s => rw [intoInt, IntType.ofText?_eq]; rfl
  | _ => rfl

theorem intoFloat_eq : v.intoFloat k = require (k.mismatch v) v.toFloat? := by
  cases v <;> rfl

/-- On 64 bits a pointer is as wide as the integers that it is stored as, so nothing is refused
the second time. -/
theorem intoInt_bind_intoPointer :
    (v.intoInt t k).bind (intoPointer t k) = v.intoInt t k := by
  rw [intoInt_eq]
  cases hfound : v.toInt? t with
  | none => rfl
  | some n => exact if_pos (type_of_toInt? hfound ▸ n.holds)

theorem toTimestamp?_of_isDistantSeconds (h : v.isDistantSeconds = true) :
    v.toTimestamp? = none := by
  cases v with
  | int n =>
    rw [isDistantSeconds] at h
    split at h
    · next seconds hseconds =>
      change (Value.int n).int64?.bind Timestamp.ofSeconds? = none
      rw [hseconds, Option.bind_some]
      exact Option.isNone_iff_eq_none.mp h
    · cases h
  | _ => cases h

/-- A count of seconds is refused for one of two reasons. -/
theorem intoTimestamp_eq :
    v.intoTimestamp = require
      (if v.isDistantSeconds then Kind.distantSeconds else Kind.timestamp.mismatch v)
      v.toTimestamp? := by
  cases v with
  | int n =>
    obtain hnone | ⟨seconds, hseconds⟩ := Option.eq_none_or_eq_some (Value.int n).int64?
    · simp only [intoTimestamp, toTimestamp?, isDistantSeconds, hnone]
      rfl
    · simp only [intoTimestamp, toTimestamp?, isDistantSeconds, hseconds]
      cases hreached : Timestamp.ofSeconds? seconds <;> simp [require, hreached, bind, Except.bind]
  | _ => rfl

end Value

namespace Kind

variable {k : Kind} {v : Value} {e : Error}

/-- The error of a value that is refused. -/
def refusal (k : Kind) (v : Value) : Error :=
  if k = .timestamp ∧ v.isDistantSeconds then distantSeconds else k.mismatch v

theorem refusal_of_ne (hk : k ≠ .timestamp) : k.refusal v = k.mismatch v :=
  if_neg fun h => hk h.1

theorem converted_eq (k : Kind) (v : Value) :
    k.converted v = require (k.refusal v) (k.convert? v) := by
  cases k with
  | string => rw [refusal_of_ne (by decide), converted, v.intoText_eq, map_require, convert?]
  | bytes => rw [refusal_of_ne (by decide), converted, v.intoBytes_eq, map_require, convert?]
  | bool => rw [refusal_of_ne (by decide), converted, Value.intoBool, map_require]; rfl
  | int t => rw [refusal_of_ne (k := .int t) (by simp), converted, v.intoInt_eq, map_require, convert?]
  | isize | usize =>
    rw [refusal_of_ne (by decide), converted, v.intoInt_bind_intoPointer, v.intoInt_eq,
      map_require, convert?]
  | f32 => rw [refusal_of_ne (by decide), converted, v.intoFloat_eq, map_require, convert?_f32]
  | f64 => rw [refusal_of_ne (by decide), converted, v.intoFloat_eq, map_require, convert?]
  | timestamp => simp only [refusal, true_and, converted, v.intoTimestamp_eq, map_require, convert?]
  | unsupported => rw [refusal_of_ne (by decide)]; rfl

theorem coerce_of_not_isNull (hnull : v.isNull = false) :
    k.coerce v = (require (k.refusal v) (k.convert? v)).map some := by
  rw [coerce, hnull]
  cases k.convert? v with
  | some w => rfl
  | none => exact (apply_ite Except.error _ _ _).symm

/-- The converters do what coercion does, and fail as it fails. -/
theorem convert_eq_coerce (k : Kind) (v : Value) : k.convert v = k.coerce v := by
  cases hnull : v.isNull with
  | true => simp [convert, coerce, hnull]
  | false => rw [convert, hnull, coerce_of_not_isNull hnull, converted_eq]; rfl

/-! ## Refusals -/

/-- Seconds that are to be a timestamp, counted in 64 bits with a sign, that no timestamp
reaches. -/
def Overshoots (k : Kind) (v : Value) : Prop :=
  k = .timestamp ∧
    ∃ n, v.int? = some n ∧ IntType.i64.Holds n ∧ ¬(-377705023201 ≤ n ∧ n ≤ 253402207200)

theorem overshoots_iff : k.Overshoots v ↔ k = .timestamp ∧ v.isDistantSeconds = true := by
  refine and_congr_right fun _ => ?_
  rw [Value.isDistantSeconds, Value.int64?]
  cases v.int? with
  | none => simp
  | some n =>
    by_cases hholds : IntType.i64.Holds n
    · simp only [Option.bind_some, Option.some.injEq, exists_eq_left', hholds, true_and, if_true,
        Option.isNone_iff_eq_none, Timestamp.ofSeconds?_eq_none_iff]
    · simp [hholds]

/-- Coercion fails if the kind has no representation of what is there to convert. -/
theorem coerce_eq_error_iff :
    k.coerce v = .error e ↔ v ≠ .null ∧ k.convert? v = none ∧ e = k.refusal v := by
  cases hnull : v.isNull with
  | true =>
    obtain rfl := Value.isNull_iff.mp hnull
    simp [coerce, hnull]
  | false =>
    have hv : v ≠ .null := by
      rintro rfl
      cases hnull
    rw [coerce_of_not_isNull hnull]
    cases k.convert? v <;> simp [require, Except.map, hv, eq_comm]

theorem coerce_of_overshoots (h : k.Overshoots v) : k.coerce v = .error distantSeconds := by
  obtain ⟨rfl, hdistant⟩ := overshoots_iff.mp h
  refine coerce_eq_error_iff.mpr ⟨?_, ?_, (if_pos ⟨rfl, hdistant⟩).symm⟩
  · rintro rfl
    cases hdistant
  · rw [convert?, v.toTimestamp?_of_isDistantSeconds hdistant]
    rfl

theorem coerce_of_not_overshoots (h : ¬k.Overshoots v) (herror : k.coerce v = .error e) :
    e = k.mismatch v := by
  rw [(coerce_eq_error_iff.mp herror).2.2]
  exact if_neg (mt overshoots_iff.mpr h)

/-- A native value is not read because coercion fails, or because there is none in null. -/
theorem read_eq_error_iff :
    k.read v = .error e ↔ k.coerce v = .error e ∨ v = .null ∧ e = k.mismatch v := by
  rw [read]
  cases hcoerce : k.coerce v with
  | error e' => simp [(coerce_eq_error_iff.mp hcoerce).1]
  | ok w =>
    cases w with
    | none =>
      obtain rfl := Value.isNull_iff.mp (coerce_eq_ok_none_iff.mp hcoerce)
      simp [eq_comm]
    | some w =>
      obtain ⟨x, rfl⟩ := represents_iff.mp (represents_of_coerce hcoerce)
      have hv : v ≠ .null := by
        rintro rfl
        cases hcoerce
      simp [hv]

/-- Converters raise the errors of coercion. Such an error is one of conversion, and its text names
the variant of the value and the type of the kind, but for seconds that no timestamp reaches: these
are always refused, with an error of no category. A native value is not read from null, which is an
error of conversion as well, and else fails to be read exactly with the errors of coercion; a field
fails to be loaded exactly with the errors of reading. -/
theorem coerce_errors (k : Kind) (v : Value) :
    k.convert v = k.coerce v ∧
      (∀ e, k.coerce v = .error e → ¬k.Overshoots v → e.is .typeConversion = true ∧
        e.message = "cannot convert " ++ v.variantName ++ " to " ++ k.typeName) ∧
      (k.Overshoots v → ∃ e, k.coerce v = .error e ∧ ∀ c, e.is c = false) ∧
      (∀ e, k.read v = .error e ↔ k.coerce v = .error e ∨
        v = .null ∧ e = .typeConversion "Null" k.typeName) ∧
      ∀ e, k.load v = .error e ↔ k.read v = .error e := by
  refine ⟨k.convert_eq_coerce v, fun e he hreached => ?_, fun h => ?_, fun e => ?_, fun e => ?_⟩
  · rw [coerce_of_not_overshoots hreached he]
    exact ⟨rfl, rfl⟩
  · exact ⟨distantSeconds, coerce_of_overshoots h, fun c => rfl⟩
  · rw [read_eq_error_iff]
    refine or_congr_right (and_congr_right fun hv => ?_)
    rw [hv]
    rfl
  · rw [load_eq_map_read]
    cases k.read v <;> simp [Except.map]

/-- The first second that is too late for a timestamp, and the first integer that is no count of
seconds at all. -/
theorem coerce_errors_tooLate :
    (∃ e, Kind.timestamp.coerce (.ofInt .i64 253402207201 (by decide)) = .error e ∧
        ∀ c, e.is c = false) ∧
      (∃ e, Kind.timestamp.coerce (.ofInt .u64 (2 ^ 63) (by decide)) = .error e ∧
        e.is .typeConversion = true ∧ e.message = "cannot convert U64 to Timestamp") ∧
      Kind.timestamp.read .null = .error (.typeConversion "Null" "Timestamp") := by
  have hlate := coerce_errors .timestamp (.ofInt .i64 253402207201 (by decide))
  have hwide := coerce_errors .timestamp (.ofInt .u64 (2 ^ 63) (by decide))
  have hnull := coerce_errors .timestamp .null
  have hreached : ¬Kind.timestamp.Overshoots (.ofInt .u64 (2 ^ 63) (by decide)) := by
    rw [overshoots_iff]
    decide
  exact ⟨hlate.2.2.1 (overshoots_iff.mpr (by decide)), ⟨_, rfl, hwide.2.1 _ rfl hreached⟩,
    (hnull.2.2.2.1 _).mpr (.inr ⟨rfl, rfl⟩)⟩

end Kind

end RelMap

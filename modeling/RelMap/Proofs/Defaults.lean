-- SUMMARY: A value is zero exactly if the field that shows as it equals the default of its type.
import RelMap.Proofs.Native

/-!
# Defaults

Fields compare as values of their types do: a floating-point zero equals the zero of the other
sign, and NaN equals nothing. Main statement: the zeros among values are what the fields show as
that equal the default of their type.
-/
namespace RelMap

/-- Equality of floating-point numbers. -/
def Binary.equals {f : BinaryFormat} : Binary f → Binary f → Bool
  | .signed neg k _, .signed neg' k' _ => k == k' && (neg == neg' || k == 0)
  | _, _ => false

theorem Binary.equals_zero {f : BinaryFormat} (x : Binary f) : x.equals .zero = x.isZero := by
  cases x with
  | nan => rfl
  | signed neg k hk =>
    simp only [equals, zero, isZero]
    cases neg <;> cases h : k == 0 <;> rfl

/-- What a field starts with is a zero. -/
theorem Kind.isZero_default (k : Kind) : k.default.isZero = true := by
  cases k <;> rfl

namespace Kind.Native

/-- The default of the type of the fields, where there are fields. -/
def default? : (k : Kind) → Option k.Native
  | .bool => some false
  | .int t => some ⟨0, t.holds_zero⟩
  | .isize => some ⟨0, IntType.i64.holds_zero⟩
  | .usize => some ⟨0, IntType.u64.holds_zero⟩
  | .f32 => some .zero
  | .f64 => some .zero
  | .string => some ""
  | .bytes => some []
  | .timestamp => some .epoch
  | .unsupported => none

/-- Equality of two fields of a kind. -/
def equals : {k : Kind} → k.Native → k.Native → Bool
  | .bool, b, c => b == c
  | .int _, m, n | .isize, m, n | .usize, m, n => m.val == n.val
  | .f32, x, y => Binary.equals x y
  | .f64, x, y => Binary.equals x y
  | .string, s, t => s == t
  | .bytes, b, c => b == c
  | .timestamp, t, u => t == u
  | .unsupported, x, _ => nomatch x

variable {k : Kind} {x z : k.Native}

/-- A type of fields that has a value has a default. -/
theorem exists_default (x : k.Native) : ∃ z : k.Native, default? k = some z := by
  cases k with
  | unsupported => exact nomatch x
  | _ => exact ⟨_, rfl⟩

/-- The zeros are what equals the default. -/
theorem isZero_toValue (h : default? k = some z) : x.toValue.isZero = x.equals z := by
  cases k with
  | unsupported => exact nomatch z
  | f32 | f64 => cases h; exact (Binary.equals_zero x).symm
  | bool => cases h; cases x <;> rfl
  | int t | isize | usize => cases h; rfl
  | string =>
    cases h
    exact Bool.eq_iff_iff.mpr (String.isEmpty_iff.trans beq_iff_eq.symm)
  | bytes => cases h; cases x <;> rfl
  | timestamp =>
    cases h
    have hepoch : x.nanos = 0 ↔ x = Timestamp.epoch :=
      (Timestamp.ext_iff (s := x) (t := .epoch)).symm
    exact Bool.eq_iff_iff.mpr (beq_iff_eq.trans (hepoch.trans beq_iff_eq.symm))

end Kind.Native

end RelMap

-- SUMMARY: Conversion to a kind yields exactly the values that fields of the kind are stored as.
import RelMap.Coercion

/-!
# Coercion and representations

`Kind.represents` says which values the fields of a kind are stored as. Main statements: what
a conversion yields represents the kind, and a value that does is converted to itself, so
that loading it gives it back.
-/
namespace RelMap

/-! ## Integers -/

namespace Value

/-- The integer that a boolean or an integer counts as. -/
def whole? : Value → Option Int
  | .bool b => some (if b then 1 else 0)
  | .int n => some n.val
  | _ => none

theorem type_of_toInt? {t : IntType} {v : Value} {n : FixedInt} (h : v.toInt? t = some n) :
    n.type = t := by
  cases v with
  | bool b => exact (FixedInt.ofInt?_eq_some_iff.mp h).1
  | int m => exact (FixedInt.ofInt?_eq_some_iff.mp h).1
  | string s =>
    obtain ⟨m, _, hm⟩ := Option.bind_eq_some_iff.mp h
    exact (FixedInt.ofInt?_eq_some_iff.mp hm).1
  | _ => cases h

theorem toInt?_int (n : FixedInt) : (Value.int n).toInt? n.type = some n :=
  FixedInt.ofInt?_val n

end Value

namespace Kind

variable {k : Kind} {v w : Value}

/-- The kinds of integers convert alike, each to the type that it is stored at. -/
theorem convert?_of_intType? {t : IntType} (h : k.intType? = some t) (v : Value) :
    k.convert? v = (v.toInt? t).map .int := by
  cases k with
  | int t' => cases h; rfl
  | isize => cases h; rfl
  | usize => cases h; rfl
  | _ => cases h

/-! ## Representations -/

theorem isNull_of_represents (h : k.represents v = true) : v.isNull = false := by
  cases v with
  | null => cases h
  | _ => rfl

private theorem represents_of_convert?_int {t : IntType} (hk : k.intType? = some t)
    (h : k.convert? v = some w) : k.represents w = true := by
  rw [convert?_of_intType? hk] at h
  obtain ⟨n, hn, rfl⟩ := Option.map_eq_some_iff.mp h
  rw [represents, hk, Value.type_of_toInt? hn, beq_self_eq_true]

/-- A conversion yields a value of the kind's variant. -/
theorem represents_of_convert? (h : k.convert? v = some w) : k.represents w = true := by
  cases k with
  | bool | f64 | string | bytes | timestamp =>
    obtain ⟨x, _, rfl⟩ := Option.map_eq_some_iff.mp h
    rfl
  | int t | isize | usize => exact represents_of_convert?_int rfl h
  | f32 =>
    unfold convert? at h
    dsimp only at h
    split at h
    · cases h
      rfl
    · obtain ⟨x, _, rfl⟩ := Option.map_eq_some_iff.mp h
      rfl
  | unsupported => cases h

/-- A value of the kind's variant is its own representation. -/
theorem convert?_of_represents (h : k.represents v = true) : k.convert? v = some v := by
  cases v with
  | int n =>
    rw [convert?_of_intType? (beq_iff_eq.mp h), Value.toInt?_int]
    rfl
  | list items => cases h
  | null => cases h
  | _ =>
    obtain rfl := beq_iff_eq.mp h
    rfl

/-! ## Coercing and loading -/

/-- What coercion yields represents the kind. -/
theorem represents_of_coerce (h : k.coerce v = .ok (some w)) : k.represents w = true := by
  unfold coerce at h
  split at h
  · cases h
  · split at h
    · next hw =>
      cases h
      exact represents_of_convert? hw
    · split at h
      · cases h
      · cases h

/-- Only null is converted to nothing. -/
theorem coerce_eq_ok_none_iff : k.coerce v = .ok none ↔ v.isNull = true := by
  unfold coerce
  split
  · next hnull => simp [hnull]
  · next hnull =>
    split
    · simp [hnull]
    · split <;> simp [hnull]

/-- Coercion yields what conversion yields. -/
theorem coerce_eq_ok_some_iff : k.coerce v = .ok (some w) ↔ k.convert? v = some w := by
  unfold coerce
  split
  · next hnull =>
    obtain rfl := Value.isNull_iff.mp hnull
    have hnone : k.convert? .null = none := by cases k <;> rfl
    simp [hnone]
  · split
    · next hw => simp [hw]
    · next hnone => split <;> simp [hnone]

theorem coerce_of_represents (h : k.represents v = true) : k.coerce v = .ok (some v) := by
  rw [coerce, isNull_of_represents h, convert?_of_represents h]
  rfl

/-- A value of the kind's variant is loaded as it is. -/
theorem load_of_represents (h : k.represents v = true) : k.load v = .ok v := by
  rw [load, coerce_of_represents h]
  exact if_pos h

end Kind

end RelMap

-- SUMMARY: Coercion is a retraction onto the values that native values show as.
import RelMap.Native
import RelMap.Proofs.Coercion
import RelMap.Proofs.Number.Rounding

/-!
# Coercion as a retraction

The values that represent a kind are those that its native values show as. Main statement:
coercion takes a value to one of them or fails, and leaves each of them as it is; a native value
is read from a value exactly if it shows as what the value is coerced to.
-/
namespace RelMap

theorem FixedInt.at?_eq_some_iff {t : IntType} {n : FixedInt} {m : t.Integer} :
    n.at? t = some m ↔ n = ⟨t, m.val, m.property⟩ := by
  unfold at?
  obtain ⟨type, val, holds⟩ := n
  split
  · next h =>
    cases h
    simp [Subtype.ext_iff]
  · next h =>
    simp only [reduceCtorEq, FixedInt.mk.injEq, false_iff, not_and]
    exact fun htype => absurd htype h

namespace Kind

variable {k : Kind} {v w : Value}

/-! ## Native values and representations -/

namespace Native

variable {x y : k.Native}

/-- Showing a native value and taking it out of a value are inverse to each other. -/
theorem ofValue?_eq_some_iff : ofValue? k v = some x ↔ v = x.toValue := by
  cases k with
  | int t | isize | usize =>
    cases v with
    | int n =>
      rw [ofValue?, FixedInt.at?_eq_some_iff, toValue, Value.ofInt, Value.int.injEq]
    | _ => exact ⟨nofun, nofun⟩
  | unsupported => exact nomatch x
  | _ => cases v <;> simp [ofValue?, toValue]

@[simp] theorem ofValue?_toValue (x : k.Native) : ofValue? k x.toValue = some x :=
  ofValue?_eq_some_iff.mpr rfl

theorem toValue_inj : x.toValue = y.toValue ↔ x = y := by
  rw [← ofValue?_eq_some_iff, ofValue?_toValue, Option.some.injEq, eq_comm]

end Native

/-- The values that represent a kind are those that its native values show as. -/
theorem represents_iff : k.represents v = true ↔ ∃ x : k.Native, v = x.toValue := by
  constructor
  · intro h
    cases v with
    | int n =>
      obtain ⟨type, val, holds⟩ := n
      have htype : k.intType? = some type := beq_iff_eq.mp h
      cases k with
      | int t | isize | usize => cases htype; exact ⟨⟨val, holds⟩, rfl⟩
      | _ => cases htype
    | list _ | null => cases h
    | bool x | f32 x | f64 x | string x | bytes x | timestamp x =>
      obtain rfl := beq_iff_eq.mp h
      exact ⟨x, rfl⟩
  · rintro ⟨x, rfl⟩
    cases k with
    | int t => exact beq_self_eq_true (some t)
    | unsupported => exact nomatch x
    | _ => rfl

theorem represents_toValue (x : k.Native) : k.represents x.toValue = true :=
  represents_iff.mpr ⟨x, rfl⟩

/-! ## Reading -/

/-- A native value is read from a value exactly if it shows as what the value is coerced to. -/
theorem read_eq_ok_iff {x : k.Native} :
    k.read v = .ok x ↔ k.coerce v = .ok (some x.toValue) := by
  unfold read
  cases hcoerce : k.coerce v with
  | error e => simp
  | ok w =>
    cases w with
    | none => simp
    | some w =>
      obtain ⟨y, rfl⟩ := represents_iff.mp (represents_of_coerce hcoerce)
      simp [Native.toValue_inj]

/-- Loading a value into a field is reading it, where a field is known by what it shows as. -/
theorem load_eq_map_read (k : Kind) (v : Value) :
    k.load v = (k.read v).map Native.toValue := by
  unfold load read
  cases hcoerce : k.coerce v with
  | error e => rfl
  | ok w =>
    cases w with
    | none => rfl
    | some w =>
      obtain ⟨x, rfl⟩ := represents_iff.mp (represents_of_coerce hcoerce)
      simp [represents_toValue, Except.map]

/-! ## Floats -/

/-- Every number is brought to 32 bits through 64, which changes no number of 32 bits. -/
theorem convert?_f32 (v : Value) :
    Kind.f32.convert? v = v.toFloat?.map fun x => .f32 x.narrow := by
  cases v with
  | f32 x => simp [convert?, Value.toFloat?, Binary.narrow_widen]
  | _ => rfl

/-! ## The retraction -/

/-- Coercion is a retraction onto the values that the native values of a kind show as. What it
yields is of the kind's own variant, is coerced to itself, and shows the native value that is
read from the value before and after. A native value shows as a value that is coerced to itself
and read back. Null alone is coerced to nothing. A field is loaded with what is read. -/
theorem coerce_retraction (k : Kind) :
    (∀ v w, k.coerce v = .ok (some w) →
        k.represents w = true ∧ k.coerce w = .ok (some w) ∧
          ∃ x : k.Native, k.read v = .ok x ∧ k.read w = .ok x ∧ x.toValue = w) ∧
      (∀ x : k.Native, k.coerce x.toValue = .ok (some x.toValue) ∧ k.read x.toValue = .ok x) ∧
      (∀ v, k.coerce v = .ok none ↔ v = .null) ∧
      ∀ v, k.load v = (k.read v).map Native.toValue := by
  have hshown (x : k.Native) : k.coerce x.toValue = .ok (some x.toValue) :=
    coerce_of_represents (represents_toValue x)
  refine ⟨fun v w h => ?_, fun x => ⟨hshown x, read_eq_ok_iff.mpr (hshown x)⟩, fun v => ?_,
    k.load_eq_map_read⟩
  · have hrepresents := represents_of_coerce h
    obtain ⟨x, rfl⟩ := represents_iff.mp hrepresents
    exact ⟨hrepresents, hshown x, x, read_eq_ok_iff.mpr h, read_eq_ok_iff.mpr (hshown x), rfl⟩
  · rw [coerce_eq_ok_none_iff, Value.isNull_iff]

theorem coerce_retraction_spacedDigits :
    let seven : Value := .ofInt .i64 (-7) (by decide)
    Kind.isize.coerce (.string " -7 ") = .ok (some seven) ∧
      Kind.isize.represents seven = true ∧ Kind.isize.coerce seven = .ok (some seven) ∧
      ∃ x : Kind.isize.Native, Kind.isize.read (.string " -7 ") = .ok x ∧
        Kind.isize.read seven = .ok x ∧ x.toValue = seven := by
  intro seven
  have h : Kind.isize.coerce (.string " -7 ") = .ok (some seven) := rfl
  exact ⟨h, (coerce_retraction .isize).1 _ _ h⟩

end Kind

end RelMap

-- SUMMARY: Texts are coerced to integers exactly if they are numerals that fit.
import RelMap.Proofs.Coercion
import RelMap.Proofs.Number.BigEndian
import RelMap.Proofs.Number.Numerals
import RelMap.Proofs.Text.Blanks

/-!
# Integers as texts

An integer is coerced to its decimal text, and a text to a kind of integers. Main statement:
going by way of the text makes no difference, and of all texts those are coerced that are
numerals between blanks, if the kind holds their integer.
-/
namespace RelMap

variable {k : Kind} {t : IntType} {s : String} {v : Value} {w : Option Value}

/-- The text is a numeral of the integer with blanks around it. -/
def Spells (signed : Bool) (s : String) (n : Int) : Prop :=
  ∃ core, Text.Encloses s.toList core ∧ Digits.Numeral signed core n

theorem Digits.intText_eq (n : Int) : intText n = toString n := by
  cases n with
  | ofNat n => rfl
  | negSucc n => exact String.ofList_cons

theorem Digits.toList_toString (n : Int) : (toString n).toList = ofInt n := by
  rw [← intText_eq, intText, String.toList_ofList]

namespace IntType

/-- The decimal text of an integer is read at a type exactly if the type holds the integer. -/
theorem bind_toInt?_ofInt (t : IntType) (n : Int) :
    (Digits.toInt? t.signed (Digits.ofInt n)).bind (FixedInt.ofInt? t) = FixedInt.ofInt? t n := by
  by_cases hsigned : n < 0 → t.signed = true
  · rw [Digits.toInt?_eq_some_iff.mpr (Digits.numeral_ofInt hsigned), Option.bind_some]
  · obtain ⟨hneg, hunsigned⟩ := Classical.not_imp.mp hsigned
    rw [Bool.not_eq_true] at hunsigned
    have hmin := min_of_unsigned hunsigned
    have hout : ¬t.Holds n := fun h => by have := h.1; omega
    rw [FixedInt.ofInt?_eq_none_iff.mpr hout, hunsigned]
    cases n with
    | ofNat n => exact absurd hneg (Int.not_lt.mpr (Int.natCast_nonneg n))
    | negSucc n => rfl

end IntType

namespace Value

/-- A text is read at a type if it spells an integer that the type holds. -/
theorem toInt?_string_iff {x : FixedInt} :
    (Value.string s).toInt? t = some x ↔
      ∃ n, ∃ h : t.Holds n, Spells t.signed s n ∧ x = ⟨t, n, h⟩ := by
  rw [toInt?, Option.bind_eq_some_iff]
  constructor
  · rintro ⟨n, hread, hx⟩
    obtain ⟨rfl, rfl⟩ := FixedInt.ofInt?_eq_some_iff.mp hx
    exact ⟨x.val, x.holds,
      ⟨_, Text.encloses_trim _, Digits.toInt?_eq_some_iff.mp hread⟩, rfl⟩
  · rintro ⟨n, hholds, ⟨core, hcore, hnumeral⟩, rfl⟩
    refine ⟨n, ?_, FixedInt.ofInt?_eq_some_iff.mpr ⟨rfl, rfl⟩⟩
    rw [hcore.trim_eq, hnumeral.trim_eq]
    exact Digits.toInt?_eq_some_iff.mpr hnumeral

/-- The text of an integer is read as the integer itself is. -/
theorem toInt?_toString (t : IntType) (x : FixedInt) :
    (Value.string (toString x.val)).toInt? t = (Value.int x).toInt? t := by
  simp only [toInt?, Digits.toList_toString, Text.trim_ofInt, t.bind_toInt?_ofInt]

end Value

namespace Kind

/-- What a kind of integers coerces a value to is what its type reads. -/
theorem coerce_eq_ok_iff_toInt? (hk : k.intType? = some t) (hv : v.isNull = false) :
    k.coerce v = .ok w ↔ ∃ x, v.toInt? t = some x ∧ w = some (.int x) := by
  cases w with
  | none => simp [coerce_eq_ok_none_iff, hv]
  | some w =>
    rw [coerce_eq_ok_some_iff, convert?_of_intType? hk, Option.map_eq_some_iff]
    simp [eq_comm]

/-- An integer is coerced to its decimal text, and by way of the text to the same value of a
kind of integers, if it is coerced to one at all. A text is coerced to such a kind exactly if it
is a numeral between blanks of an integer that the kind holds, and then to that integer; a
reader that goes digit by digit and never leaves the type yields the same. -/
theorem coerce_numerals (hk : k.intType? = some t) :
    (∀ x : FixedInt,
        Kind.string.coerce (.int x) = .ok (some (.string (toString x.val))) ∧
          ∀ w, k.coerce (.string (toString x.val)) = .ok w ↔ k.coerce (.int x) = .ok w) ∧
      ∀ s w,
        (k.coerce (.string s) = .ok w ↔
          ∃ n, ∃ h : t.Holds n, Spells t.signed s n ∧ w = some (.ofInt t n h)) ∧
        (k.coerce (.string s) = .ok w ↔
          ∃ x, t.ofText? (Text.trim s.toList) = some x ∧ w = some (.int x)) := by
  refine ⟨fun x => ⟨?_, fun w => ?_⟩, fun s w => ⟨?_, ?_⟩⟩
  · rw [coerce_eq_ok_some_iff, ← Digits.intText_eq]
    rfl
  · rw [coerce_eq_ok_iff_toInt? hk rfl, coerce_eq_ok_iff_toInt? hk rfl, Value.toInt?_toString]
  · rw [coerce_eq_ok_iff_toInt? hk rfl]
    constructor
    · rintro ⟨x, hx, rfl⟩
      obtain ⟨n, hholds, hspells, rfl⟩ := Value.toInt?_string_iff.mp hx
      exact ⟨n, hholds, hspells, rfl⟩
    · rintro ⟨n, hholds, hspells, rfl⟩
      exact ⟨_, Value.toInt?_string_iff.mpr ⟨n, hholds, hspells, rfl⟩, rfl⟩
  · rw [coerce_eq_ok_iff_toInt? hk rfl, IntType.ofText?_eq]
    rfl

/-- The least integer of a type is read although its magnitude is none of the type, zeros in
front change nothing, and a type without negative integers has no minus sign, not for zero. -/
theorem coerce_numerals_ends :
    Kind.coerce (.int .i8) (.string "-128") = .ok (some (.ofInt .i8 (-128) (by decide))) ∧
      Kind.coerce (.int .i8) (.string "\u00A0+0000000127\n") =
        .ok (some (.ofInt .i8 127 (by decide))) ∧
      (∀ w, Kind.coerce (.int .i8) (.string "128") ≠ .ok w) ∧
      (∀ w, Kind.usize.coerce (.string "-0") ≠ .ok w) ∧
      ∀ w, Kind.usize.coerce (.string "-1") = .ok w ↔
        Kind.usize.coerce (.ofInt .i64 (-1) (by decide)) = .ok w := by
  have hsigned := coerce_numerals (k := .int .i8) rfl
  have hunsigned := coerce_numerals (k := .usize) rfl
  have hleast : toString (-128 : Int) = "-128" := by decide
  have hminus : toString (-1 : Int) = "-1" := by decide
  refine ⟨?_, ?_, fun w h => ?_, fun w h => ?_, ?_⟩
  · rw [← hleast]
    exact ((hsigned.1 ⟨.i8, -128, by decide⟩).2 _).mpr rfl
  · refine (hsigned.2 _ _).1.mpr
      ⟨127, by decide, ⟨"+0000000127".toList, ?_, ?_⟩, rfl⟩
    · exact ⟨['\u00A0'], ['\n'], by decide, by decide, by decide⟩
    · exact .plus (Digits.isRun_iff.mpr (by decide : "0000000127".toList ≠ [] ∧ _))
  · obtain ⟨x, hx, -⟩ := (hsigned.2 _ _).2.mp h
    cases hx
  · obtain ⟨x, hx, -⟩ := (hunsigned.2 _ _).2.mp h
    cases hx
  · rw [← hminus]
    exact (hunsigned.1 ⟨.i64, -1, by decide⟩).2

end Kind

end RelMap

-- SUMMARY: Integers are coerced to the same integer, or the coercion is refused.
import RelMap.Proofs.Coercion
import RelMap.Proofs.Number.Words

/-!
# Narrowing

A boolean or an integer of any type is coerced to a kind of integers by way of the word of 128
bits that it widens to. Main statement: the coercion yields the same integer where the kind
spans it and is refused everywhere else, and so are the truth values of other integers than
zero and one.
-/
namespace RelMap

variable {v : Value} {n : Int} {k : Kind} {t : IntType}

namespace Value

/-- The wide word of a boolean or of an integer. -/
def wide? : Value → Option (BitVec 128)
  | .bool b => some (if b then 1 else 0)
  | .int n => some (n.type.extend n.word)
  | _ => none

/-- Widening is exact. -/
theorem exists_wide (hv : v.whole? = some n) : ∃ w, v.wide? = some w ∧ w.toInt = n := by
  cases v with
  | bool b => cases hv; exact ⟨_, rfl, by cases b <;> rfl⟩
  | int m => cases hv; exact ⟨_, rfl, by rw [IntType.toInt_extend, m.valueOf_word]⟩
  | _ => cases hv

theorem toInt?_of_whole (hv : v.whole? = some n) : v.toInt? t = FixedInt.ofInt? t n := by
  cases v with
  | bool b => cases hv; rfl
  | int m => cases hv; rfl
  | _ => cases hv

theorem toBool?_of_whole (hv : v.whole? = some n) :
    v.toBool? = if n = 1 then some true else if n = 0 then some false else none := by
  cases v with
  | bool b => cases hv; cases b <;> rfl
  | int m => cases hv; rfl
  | _ => cases hv

/-- Only one is true and only zero is false. -/
theorem toBool?_eq_some_iff (hv : v.whole? = some n) {b : Bool} :
    v.toBool? = some b ↔ n = if b then 1 else 0 := by
  rw [toBool?_of_whole hv]
  by_cases hone : n = 1
  · cases b <;> simp [hone]
  · by_cases hzero : n = 0
    · cases b <;> simp [hzero]
    · cases b <;> simp [hone, hzero]

theorem isNull_of_whole (hv : v.whole? = some n) : v.isNull = false := by
  cases v with
  | null => cases hv
  | _ => rfl

end Value

namespace Kind

/-- The integers that a kind spans. Integers of the width of a pointer have 64 bits. -/
def Spans : Kind → Int → Prop
  | .bool, n => n = 0 ∨ n = 1
  | .int t, n => SpansBits t.signed t.bits n
  | .isize, n => SpansBits true 64 n
  | .usize, n => SpansBits false 64 n
  | _, _ => False

instance : ∀ (k : Kind) (n : Int), Decidable (k.Spans n)
  | .bool, n => inferInstanceAs (Decidable (n = 0 ∨ n = 1))
  | .int t, n => inferInstanceAs (Decidable (SpansBits t.signed t.bits n))
  | .isize, n => inferInstanceAs (Decidable (SpansBits true 64 n))
  | .usize, n => inferInstanceAs (Decidable (SpansBits false 64 n))
  | .f32, _ | .f64, _ | .string, _ | .bytes, _ | .timestamp, _ | .unsupported, _ =>
    inferInstanceAs (Decidable False)

/-- A kind spans what the type holds that it is stored at. -/
theorem spans_iff_holds (hk : k.intType? = some t) : k.Spans n ↔ t.Holds n := by
  cases k with
  | int t' => cases hk; exact IntType.holds_iff_spansBits.symm
  | isize => cases hk; exact (IntType.holds_iff_spansBits (t := .i64)).symm
  | usize => cases hk; exact (IntType.holds_iff_spansBits (t := .u64)).symm
  | _ => cases hk

/-- What has no representation is refused; only for instants there is a second reason. -/
theorem coerce_of_convert?_none (hnull : v.isNull = false) (hk : k ≠ .timestamp)
    (h : k.convert? v = none) : k.coerce v = .error (k.mismatch v) := by
  simp only [coerce, hnull, h, hk, false_and, Bool.false_eq_true, if_false]

theorem coerce_int (hv : v.whole? = some n) (hk : k.intType? = some t) (h : t.Holds n) :
    k.coerce v = .ok (some (.int ⟨t, n, h⟩)) := by
  refine coerce_eq_ok_some_iff.mpr ?_
  rw [convert?_of_intType? hk, Value.toInt?_of_whole hv, FixedInt.ofInt?, dif_pos h]
  rfl

theorem coerce_int_out (hv : v.whole? = some n) (hk : k.intType? = some t) (h : ¬t.Holds n) :
    k.coerce v = .error (k.mismatch v) := by
  refine coerce_of_convert?_none (Value.isNull_of_whole hv) (by rintro rfl; cases hk) ?_
  rw [convert?_of_intType? hk, Value.toInt?_of_whole hv, FixedInt.ofInt?, dif_neg h]
  rfl

/-- A boolean or an integer is coerced to a kind of integers if the kind spans it, and then to
the same integer, whose word is the one that narrowing the wide word leaves. It is coerced to a
boolean if it is zero or one. Everything else is an error that names the types. -/
theorem coerce_exact (hv : v.whole? = some n) :
    (∀ (k : Kind) (t : IntType), k.intType? = some t →
        (k.Spans n → ∃ m, k.coerce v = .ok (some (.int m)) ∧ m.type = t ∧ m.val = n ∧
          ∃ b, v.wide?.bind t.narrow? = some b ∧ t.valueOf b = n) ∧
        (¬k.Spans n → k.coerce v = .error (.typeConversion v.variantName k.typeName) ∧
          v.wide?.bind t.narrow? = none)) ∧
      (∀ b : Bool, Kind.bool.coerce v = .ok (some (.bool b)) ↔ n = if b then 1 else 0) ∧
      (¬Kind.bool.Spans n →
        Kind.bool.coerce v = .error (.typeConversion v.variantName "bool")) := by
  obtain ⟨w, hw, hexact⟩ := Value.exists_wide hv
  refine ⟨fun k t hk => ⟨fun h => ?_, fun h => ?_⟩, fun b => ?_, fun h => ?_⟩
  · have hholds := (spans_iff_holds hk).mp h
    refine ⟨⟨t, n, hholds⟩, coerce_int hv hk hholds, rfl, rfl, BitVec.ofInt t.bits n, ?_, ?_⟩
    · rw [hw, Option.bind_some, IntType.narrow?_eq_some_iff, hexact, IntType.valueOf_ofInt hholds]
    · exact IntType.valueOf_ofInt hholds
  · have hout := mt (spans_iff_holds hk).mpr h
    refine ⟨coerce_int_out hv hk hout, ?_⟩
    rw [hw, Option.bind_some, IntType.narrow?_eq_none_iff, hexact]
    exact hout
  · rw [coerce_eq_ok_some_iff, convert?, Option.map_eq_some_iff, ← Value.toBool?_eq_some_iff hv]
    simp
  · obtain ⟨hzero, hone⟩ := not_or.mp h
    refine coerce_of_convert?_none (Value.isNull_of_whole hv) (by decide) ?_
    rw [convert?, Value.toBool?_of_whole hv, if_neg hone, if_neg hzero]
    rfl

theorem coerce_exact_ends :
    (∃ m, Kind.isize.coerce (.ofInt .u64 (2 ^ 63 - 1) (by decide)) = .ok (some (.int m)) ∧
        m.type = .i64 ∧ m.val = 2 ^ 63 - 1) ∧
      Kind.isize.coerce (.ofInt .u64 (2 ^ 63) (by decide)) =
        .error (.typeConversion "U64" "isize") ∧
      (∃ m, Kind.coerce (.int .i8) (.ofInt .i64 (-128) (by decide)) = .ok (some (.int m)) ∧
        m.type = .i8 ∧ m.val = -128) ∧
      Kind.usize.coerce (.ofInt .i8 (-1) (by decide)) = .error (.typeConversion "I8" "usize") ∧
      Kind.bool.coerce (.ofInt .u8 1 (by decide)) = .ok (some (.bool true)) ∧
      Kind.bool.coerce (.ofInt .i8 (-1) (by decide)) = .error (.typeConversion "I8" "bool") := by
  have hmax := coerce_exact (v := .ofInt .u64 (2 ^ 63 - 1) (by decide)) rfl
  have hover := coerce_exact (v := .ofInt .u64 (2 ^ 63) (by decide)) rfl
  have hmin := coerce_exact (v := .ofInt .i64 (-128) (by decide)) rfl
  have hone := coerce_exact (v := .ofInt .u8 1 (by decide)) rfl
  have hneg := coerce_exact (v := .ofInt .i8 (-1) (by decide)) rfl
  obtain ⟨m, hm, htype, hval, -⟩ := (hmax.1 .isize .i64 rfl).1 (by decide)
  obtain ⟨l, hl, hltype, hlval, -⟩ := (hmin.1 (.int .i8) .i8 rfl).1 (by decide)
  exact ⟨⟨m, hm, htype, hval⟩, ((hover.1 .isize .i64 rfl).2 (by decide)).1,
    ⟨l, hl, hltype, hlval⟩, ((hneg.1 .usize .u64 rfl).2 (by decide)).1,
    (hone.2.1 true).mpr rfl, hneg.2.2 (by decide)⟩

end Kind

end RelMap

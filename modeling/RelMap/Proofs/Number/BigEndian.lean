-- SUMMARY: Bytes are determined by their number and by the integer that they encode.
import Mathlib.Data.List.Induction
import RelMap.Number.BigEndian
import RelMap.Number.IntType

/-!
# Bytes of integers

`BigEndian.toInt` reads bytes in two's complement. Main statements: the bytes of an integer are
read as the integer, and no other bytes of their number are.
-/
namespace RelMap

namespace BigEndian

variable {b : List UInt8} {width : Nat} {n : Int}

/-- The integer that bytes encode in two's complement. -/
def toInt (b : List UInt8) : Int :=
  if 2 * toNat b < count b.length then toNat b else toNat b - count b.length

theorem toNat_cons (d : UInt8) (b : List UInt8) :
    toNat (d :: b) = d.toNat * count b.length + toNat b := by
  induction b using List.reverseRecOn with
  | nil => simp [toNat, count]
  | append_singleton b d' ih =>
    rw [← List.cons_append, toNat_append_singleton, ih, toNat_append_singleton,
      List.length_append, List.length_singleton, count, Nat.add_mul, Nat.mul_assoc,
      Nat.mul_comm (count b.length) 256, Nat.add_assoc]

theorem toNat_lt (b : List UInt8) : toNat b < count b.length := by
  induction b using List.reverseRecOn with
  | nil => decide
  | append_singleton b d ih =>
    have hd := d.toNat_lt
    rw [toNat_append_singleton, List.length_append, List.length_singleton, count]
    omega

theorem toInt_ofInt (hlow : -(count width : Int) ≤ 2 * n) (hhigh : 2 * n < count width) :
    toInt (ofInt width n) = n := by
  have hread := toNat_ofInt width n
  rw [toInt, length_ofInt]
  rcases Int.lt_or_le n 0 with hneg | hpos
  · have hwrap : n % (count width : Int) = n + count width := by
      rw [← Int.add_emod_right, Int.emod_eq_of_lt (by omega) (by omega)]
    rw [if_neg (by omega)]
    omega
  · have hkeep : n % (count width : Int) = n := Int.emod_eq_of_lt hpos (by omega)
    rw [if_pos (by omega)]
    omega

theorem toInt_bounds (b : List UInt8) :
    -(count b.length : Int) ≤ 2 * toInt b ∧ 2 * toInt b < count b.length := by
  have hlt := toNat_lt b
  unfold toInt
  split <;> omega

theorem emod_toInt (b : List UInt8) : toInt b % (count b.length : Int) = toNat b := by
  have hlt := toNat_lt b
  have hkeep : (toNat b : Int) % (count b.length : Int) = toNat b :=
    Int.emod_eq_of_lt (by omega) (by omega)
  unfold toInt
  split
  · exact hkeep
  · rw [Int.sub_emod_right, hkeep]

end BigEndian

/-! ## Fixed-width integers -/

namespace IntType

variable {t : IntType} {n : Int}

theorem count_eq (t : IntType) : t.count = BigEndian.count (t.bits / 8) := by
  cases t <;> decide

theorem min_of_unsigned (h : t.signed = false) : t.min = 0 := by
  cases t <;> first | rfl | cases h

theorem holds_iff_of_signed (h : t.signed = true) :
    t.Holds n ↔ -t.count ≤ 2 * n ∧ 2 * n < t.count := by
  cases t with
  | i8 | i16 | i32 | i64 => simp only [Holds, min, max, count]; omega
  | _ => cases h

end IntType

theorem BigEndian.toInt_ofInt_of_holds {t : IntType} {n : Int} (ht : t.signed = true)
    (h : t.Holds n) : toInt (ofInt (t.bits / 8) n) = n := by
  obtain ⟨hlow, hhigh⟩ := (IntType.holds_iff_of_signed ht).mp h
  rw [IntType.count_eq] at hlow hhigh
  exact toInt_ofInt hlow hhigh

namespace FixedInt

theorem eq_of_val {m n : FixedInt} (htype : m.type = n.type) (hval : m.val = n.val) : m = n := by
  cases m
  cases n
  rw [mk.injEq]
  exact ⟨htype, hval⟩

/-- Wrapping takes the integers of a residue class to one. -/
theorem wrap_emod (t : IntType) (n : Int) : wrap t (n % t.count) = wrap t n := by
  have hresidue : (n % t.count - t.min) % t.count = (n - t.min) % t.count := Int.emod_sub_emod ..
  simp only [wrap, hresidue]

/-- Wrapping the number of bytes gives the integer that they encode. -/
theorem val_wrap_toNat {t : IntType} {b : List UInt8} (ht : t.signed = true)
    (hb : b.length = t.bits / 8) : (wrap t (BigEndian.toNat b)).val = BigEndian.toInt b := by
  have hbounds := BigEndian.toInt_bounds b
  rw [← BigEndian.emod_toInt, hb, ← IntType.count_eq, wrap_emod]
  rw [hb, ← IntType.count_eq] at hbounds
  exact wrap_val_of_holds ((IntType.holds_iff_of_signed ht).mpr hbounds)

end FixedInt

end RelMap

-- SUMMARY: Words of integers: widened to 128 bits, and narrowed where they fit.
import Mathlib.Algebra.Group.Int.Defs
import RelMap.Number.IntType

/-!
# Machine words

An integer of an `IntType` is a word of the type's width, read with a sign or without one.
`IntType.extend` widens a word to 128 bits, where every type fits, and `IntType.narrow?` takes
a wide word back to a type by keeping its low bits, if the type reaches that far.
-/
namespace RelMap

namespace IntType

/-- The integer that a word of the type stands for. -/
def valueOf (t : IntType) (w : BitVec t.bits) : Int := if t.signed then w.toInt else w.toNat

/-- A word of the type on 128 bits: copies of the sign fill it up, or zeros. -/
def extend (t : IntType) (w : BitVec t.bits) : BitVec 128 :=
  if t.signed then w.signExtend 128 else w.setWidth 128

/-- The low bits of a wide word that lies between the ends of the type. -/
def narrow? (t : IntType) (w : BitVec 128) : Option (BitVec t.bits) :=
  if (BitVec.ofInt 128 t.min).sle w ∧ w.sle (BitVec.ofInt 128 t.max) then some (w.setWidth t.bits)
  else none

end IntType

/-- The word of an integer. -/
def FixedInt.word (n : FixedInt) : BitVec n.type.bits := BitVec.ofInt n.type.bits n.val

/-- The integers on so many bits, half of them negative where they have a sign. -/
def SpansBits (signed : Bool) (bits : Nat) (n : Int) : Prop :=
  if signed then -2 ^ (bits - 1) ≤ n ∧ n < 2 ^ (bits - 1) else 0 ≤ n ∧ n < 2 ^ bits

instance (signed : Bool) (bits : Nat) (n : Int) : Decidable (SpansBits signed bits n) :=
  inferInstanceAs (Decidable (if signed then _ else _))

namespace IntType

variable {t : IntType} {n : Int}

/-! ## Words of a type -/

/-- A type holds the integers on as many bits as it is wide. -/
theorem holds_iff_spansBits : t.Holds n ↔ SpansBits t.signed t.bits n := by
  cases t <;> simp [Holds, SpansBits, signed, min, max, bits] <;> omega

theorem bits_pos (t : IntType) : 0 < t.bits := by cases t <;> decide

theorem bits_le (t : IntType) : t.bits ≤ 64 := by cases t <;> decide

theorem valueOf_of_signed (h : t.signed = true) (w : BitVec t.bits) : t.valueOf w = w.toInt :=
  if_pos h

theorem valueOf_of_unsigned (h : t.signed = false) (w : BitVec t.bits) : t.valueOf w = w.toNat :=
  if_neg (by simp [h])

theorem holds_valueOf (t : IntType) (w : BitVec t.bits) : t.Holds (t.valueOf w) := by
  rw [holds_iff_spansBits, SpansBits]
  cases hsigned : t.signed with
  | true =>
    rw [valueOf_of_signed hsigned]
    exact ⟨w.le_toInt, w.toInt_lt⟩
  | false =>
    rw [valueOf_of_unsigned hsigned]
    exact ⟨Int.natCast_nonneg _, by exact_mod_cast w.isLt⟩

/-- Different words of a type stand for different integers. -/
theorem valueOf_inj {a b : BitVec t.bits} : t.valueOf a = t.valueOf b ↔ a = b := by
  cases hsigned : t.signed with
  | true => rw [valueOf_of_signed hsigned, valueOf_of_signed hsigned, BitVec.toInt_inj]
  | false =>
    rw [valueOf_of_unsigned hsigned, valueOf_of_unsigned hsigned, Int.natCast_inj,
      BitVec.toNat_inj]

/-- The low bits of an integer stand for it, if the type holds it. -/
theorem valueOf_ofInt (h : t.Holds n) : t.valueOf (BitVec.ofInt t.bits n) = n := by
  rw [holds_iff_spansBits, SpansBits] at h
  cases hsigned : t.signed with
  | true =>
    obtain ⟨hlow, hhigh⟩ := (if_pos hsigned).mp h
    rw [valueOf_of_signed hsigned, BitVec.toInt_ofInt_eq_self t.bits_pos hlow hhigh]
  | false =>
    rw [hsigned] at h
    obtain ⟨hlow, hhigh⟩ := h
    rw [valueOf_of_unsigned hsigned, BitVec.toNat_ofInt,
      Int.emod_eq_of_lt hlow (by exact_mod_cast hhigh), Int.toNat_of_nonneg hlow]

/-! ## Wide words -/

/-- Widening keeps the integer. -/
theorem toInt_extend (t : IntType) (w : BitVec t.bits) : (t.extend w).toInt = t.valueOf w := by
  have hbits := t.bits_le
  cases hsigned : t.signed with
  | true =>
    rw [extend, if_pos hsigned, valueOf_of_signed hsigned,
      BitVec.toInt_signExtend_of_le (by omega)]
  | false =>
    have hlt : w.toNat < 2 ^ 64 :=
      Nat.lt_of_lt_of_le w.isLt (Nat.pow_le_pow_right (by decide) hbits)
    rw [extend, if_neg (by simp [hsigned]), valueOf_of_unsigned hsigned,
      BitVec.toInt_eq_toNat_cond, BitVec.toNat_setWidth_of_le (by omega), if_pos (by omega)]

/-- The low bits of a wide word are those of its integer. -/
theorem setWidth_eq_ofInt (w : BitVec 128) : w.setWidth t.bits = BitVec.ofInt t.bits w.toInt := by
  have hdvd : ((2 ^ t.bits : Nat) : Int) ∣ ((2 ^ 128 : Nat) : Int) :=
    Int.natCast_dvd_natCast.mpr (Nat.pow_dvd_pow 2 (by have := t.bits_le; omega))
  rw [← BitVec.toNat_inj, BitVec.toNat_setWidth, BitVec.toNat_ofInt, BitVec.toInt_eq_toNat_bmod,
    ← Int.emod_emod_of_dvd _ hdvd, Int.bmod_emod, Int.emod_emod_of_dvd _ hdvd]
  rfl

/-- Narrowing keeps the integer or is refused. -/
theorem narrow?_eq_some_iff {w : BitVec 128} {b : BitVec t.bits} :
    t.narrow? w = some b ↔ t.valueOf b = w.toInt := by
  have hmin : (BitVec.ofInt 128 t.min).toInt = t.min := by cases t <;> decide
  have hmax : (BitVec.ofInt 128 t.max).toInt = t.max := by cases t <;> decide
  simp only [narrow?, BitVec.sle_iff_toInt_le, hmin, hmax, Option.ite_none_right_eq_some,
    Option.some.injEq]
  constructor
  · rintro ⟨hholds, rfl⟩
    rw [setWidth_eq_ofInt, valueOf_ofInt hholds]
  · intro h
    have hholds : t.Holds w.toInt := h ▸ t.holds_valueOf b
    exact ⟨hholds, valueOf_inj.mp (by rw [setWidth_eq_ofInt, valueOf_ofInt hholds, h])⟩

theorem narrow?_eq_none_iff {w : BitVec 128} : t.narrow? w = none ↔ ¬t.Holds w.toInt := by
  constructor
  · intro hnone hholds
    have hkept := narrow?_eq_some_iff.mpr (valueOf_ofInt hholds)
    rw [hnone] at hkept
    cases hkept
  · intro hout
    refine Option.eq_none_iff_forall_ne_some.mpr fun b hb => hout ?_
    exact narrow?_eq_some_iff.mp hb ▸ t.holds_valueOf b

end IntType

theorem FixedInt.valueOf_word (n : FixedInt) : n.type.valueOf n.word = n.val :=
  IntType.valueOf_ofInt n.holds

end RelMap

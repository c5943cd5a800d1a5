-- SUMMARY: Rounding to a format keeps the numbers of the format.
import Mathlib.Algebra.Ring.Nat
import RelMap.Number.Binary

/-!
# Rounding

The magnitude number `s * f.unit + m` is `m` times two to the power `s`, where `m` is a
significand of the format and, above the least magnitudes, a normal one. Main statements: a
quotient that equals a magnitude is rounded to it, and a 32-bit number is the same after it
was put on 64 bits and rounded back.
-/
namespace RelMap

namespace BinaryFormat

variable (f : BinaryFormat)

/-! ## The parts of a magnitude -/

/-- The least normal significand. -/
def unit : Nat := 2 ^ (f.precision - 1)

/-- A significand with the power of two that it is scaled by. Significands below the least
normal one are not scaled. -/
structure Parts (s m : Nat) : Prop where
  lt : m < 2 * f.unit
  normal : s = 0 ∨ f.unit ≤ m

theorem unit_pos : 0 < f.unit := Nat.two_pow_pos _

theorem exists_parts (k : Nat) : ∃ s m, f.Parts s m ∧ k = s * f.unit + m := by
  have hunit := f.unit_pos
  by_cases hk : k < f.unit
  · exact ⟨0, k, ⟨by omega, .inl rfl⟩, by omega⟩
  · have hmod := Nat.mod_lt k hunit
    have hdiv : 1 ≤ k / f.unit := (Nat.one_le_div_iff hunit).mpr (by omega)
    refine ⟨k / f.unit - 1, f.unit + k % f.unit, ⟨by omega, .inr (by omega)⟩, ?_⟩
    have hsplit := Nat.div_add_mod' k f.unit
    rw [Nat.sub_one_mul]
    have hle : f.unit ≤ k / f.unit * f.unit := Nat.le_mul_of_pos_left _ hdiv
    omega

theorem shift_eq (k : Nat) : f.shift k = k / f.unit - 1 := by
  rw [shift, Nat.shiftRight_eq_div_pow, unit]

theorem significand_eq (k : Nat) :
    f.significand k = if k < f.unit then k else f.unit + k % f.unit := by
  simp only [significand, Nat.one_shiftLeft]
  rfl

variable {f} {s m num den : Nat}

namespace Parts

variable (h : f.Parts s m)

include h in
theorem shift_eq : f.shift (s * f.unit + m) = s := by
  have hunit := f.unit_pos
  have hlt := h.lt
  rw [BinaryFormat.shift_eq, Nat.mul_comm, Nat.mul_add_div hunit]
  rcases h.normal with rfl | hnormal
  · have hdiv : m / f.unit < 2 := Nat.div_lt_of_lt_mul (by omega)
    omega
  · have hdiv : m / f.unit = 1 := Nat.div_eq_of_lt_le (by omega) (by omega)
    omega

include h in
theorem significand_eq : f.significand (s * f.unit + m) = m := by
  have hlt := h.lt
  rw [BinaryFormat.significand_eq]
  by_cases hm : m < f.unit
  · obtain rfl : s = 0 := h.normal.resolve_right (by omega)
    rw [if_pos (by omega)]
    omega
  · rw [if_neg (by omega), Nat.mul_comm, Nat.mul_add_mod, Nat.mod_eq_sub_mod (by omega),
      Nat.mod_eq_of_lt (by omega)]
    omega

include h in
/-- The magnitude that has given parts. -/
theorem units_eq : f.units (s * f.unit + m) = m * 2 ^ s := by
  rw [units, Nat.shiftLeft_eq, h.shift_eq, h.significand_eq]

end Parts

/-! ## Exact quotients -/

theorem divEven_mul (hden : 0 < den) (n : Nat) : divEven (n * den) den = n := by
  simp [divEven, Nat.mul_div_cancel n hden, hden]

/-- The shift is the least that brings a quotient below two to the precision. -/
theorem shiftFor_spec (f : BinaryFormat) (hden : 0 < den) (num : Nat) :
    num < den * 2 ^ (f.precision + f.shiftFor num den) ∧
      (f.shiftFor num den = 0 ∨ den * 2 ^ (f.precision + f.shiftFor num den - 1) ≤ num) := by
  have hnum : num < 2 ^ (num.log2 + 1) := Nat.lt_log2_self
  have hlow : 2 ^ den.log2 ≤ den := Nat.log2_self_le (by omega)
  have hhigh : den < 2 ^ (den.log2 + 1) := Nat.lt_log2_self
  -- the guess is the difference of the logarithms, which is at most one off
  generalize hguess : num.log2 - den.log2 - f.precision = guess
  by_cases hfits : num < den * 2 ^ (f.precision + guess)
  · have hshift : f.shiftFor num den = guess := by
      simp only [shiftFor, hguess, Nat.shiftLeft_eq, if_pos hfits]
    rw [hshift]
    refine ⟨hfits, ?_⟩
    by_cases hzero : guess = 0
    · exact .inl hzero
    · right
      have hne : num ≠ 0 := by
        rintro rfl
        simp at hguess
        omega
      calc den * 2 ^ (f.precision + guess - 1)
        _ ≤ 2 ^ (den.log2 + 1) * 2 ^ (f.precision + guess - 1) :=
          Nat.mul_le_mul_right _ (Nat.le_of_lt hhigh)
        _ = 2 ^ num.log2 := by rw [← Nat.pow_add]; congr 1; omega
        _ ≤ num := Nat.log2_self_le hne
  · have hshift : f.shiftFor num den = guess + 1 := by
      simp only [shiftFor, hguess, Nat.shiftLeft_eq, if_neg hfits]
    rw [hshift]
    refine ⟨?_, .inr (Nat.le_of_not_lt hfits)⟩
    calc num
      _ < 2 ^ (num.log2 + 1) := hnum
      _ ≤ 2 ^ (den.log2 + (f.precision + (guess + 1))) :=
        Nat.pow_le_pow_right (by decide) (by omega)
      _ = 2 ^ den.log2 * 2 ^ (f.precision + (guess + 1)) := Nat.pow_add ..
      _ ≤ den * 2 ^ (f.precision + (guess + 1)) := Nat.mul_le_mul_right _ hlow

theorem two_mul_unit (hp : 0 < f.precision) : 2 * f.unit = 2 ^ f.precision := by
  rw [unit, ← Nat.pow_succ']
  congr 1
  omega

theorem shiftFor_mul (hp : 0 < f.precision) (h : f.Parts s m) (hden : 0 < den) :
    f.shiftFor (m * 2 ^ s * den) den = s := by
  obtain ⟨hlt, hleast⟩ := f.shiftFor_spec hden (m * 2 ^ s * den)
  generalize f.shiftFor (m * 2 ^ s * den) den = t at hlt hleast
  rw [Nat.mul_comm den, Nat.mul_lt_mul_right hden] at hlt
  rw [Nat.mul_comm den, Nat.mul_le_mul_right_iff hden] at hleast
  have hbelow : m * 2 ^ s < 2 ^ (f.precision + s) := by
    rw [Nat.pow_add, ← two_mul_unit hp]
    exact Nat.mul_lt_mul_of_pos_right h.lt (Nat.two_pow_pos s)
  refine Nat.le_antisymm ?_ ?_
  · rcases hleast with hzero | hleast
    · omega
    · have := (Nat.pow_lt_pow_iff_right (by decide : 1 < 2)).mp (Nat.lt_of_le_of_lt hleast hbelow)
      omega
  · rcases h.normal with hzero | hnormal
    · omega
    · have habove : 2 ^ (f.precision - 1 + s) ≤ m * 2 ^ s := by
        rw [Nat.pow_add]
        exact Nat.mul_le_mul_right _ hnormal
      have := (Nat.pow_lt_pow_iff_right (by decide : 1 < 2)).mp (Nat.lt_of_le_of_lt habove hlt)
      omega

/-- A quotient that equals a magnitude of the format is rounded to it. -/
theorem roundUnits_units (hp : 0 < f.precision) {k : Nat} (hk : k ≤ f.infinity)
    (hden : 0 < den) : f.roundUnits (f.units k * den) den = k := by
  obtain ⟨s, m, h, rfl⟩ := f.exists_parts k
  have hquotient : divEven (m * 2 ^ s * den) (den * 2 ^ s) = m := by
    rw [Nat.mul_assoc, Nat.mul_comm (2 ^ s)]
    exact divEven_mul (Nat.mul_pos hden (Nat.two_pow_pos s)) m
  rw [h.units_eq, roundUnits, shiftFor_mul hp h hden]
  simp only [Nat.shiftLeft_eq, hquotient]
  exact Nat.min_eq_right hk

/-- A significand that is scaled far enough is a magnitude of the format. -/
theorem exists_units_eq (hm : m < 2 * f.unit) (hs : f.precision - 1 ≤ s) :
    ∃ k, k < (s + 2) * f.unit ∧ f.units k = m * 2 ^ s := by
  have hunit := f.unit_pos
  by_cases hzero : m = 0
  · have hparts : f.Parts 0 0 := ⟨by omega, .inl rfl⟩
    exact ⟨0, Nat.mul_pos (by omega) hunit, by simpa [hzero] using hparts.units_eq⟩
  · -- the leading bit of the significand is moved up to that of a normal one
    have hlow : 2 ^ m.log2 ≤ m := Nat.log2_self_le hzero
    have hhigh : m < 2 ^ (m.log2 + 1) := Nat.lt_log2_self
    have hlog : m.log2 ≤ f.precision - 1 := by
      have hlt : 2 ^ m.log2 < 2 ^ (f.precision - 1 + 1) := by
        rw [Nat.pow_succ']
        exact Nat.lt_of_le_of_lt hlow hm
      exact Nat.le_of_lt_succ ((Nat.pow_lt_pow_iff_right (by decide)).mp hlt)
    obtain ⟨j, hj⟩ : ∃ j, f.precision - 1 = m.log2 + j := ⟨_, (Nat.add_sub_of_le hlog).symm⟩
    have hunit_eq : f.unit = 2 ^ m.log2 * 2 ^ j := by rw [unit, hj, Nat.pow_add]
    have hparts : f.Parts (s - j) (m * 2 ^ j) := by
      constructor
      · rw [hunit_eq, ← Nat.mul_assoc, ← Nat.pow_succ']
        exact Nat.mul_lt_mul_of_pos_right hhigh (Nat.two_pow_pos j)
      · exact .inr (hunit_eq ▸ Nat.mul_le_mul_right _ hlow)
    refine ⟨(s - j) * f.unit + m * 2 ^ j, ?_, ?_⟩
    · calc (s - j) * f.unit + m * 2 ^ j
        _ < (s - j) * f.unit + 2 * f.unit := Nat.add_lt_add_left hparts.lt _
        _ = (s - j + 2) * f.unit := (Nat.add_mul ..).symm
        _ ≤ (s + 2) * f.unit := Nat.mul_le_mul_right _ (by omega)
    · rw [hparts.units_eq, Nat.mul_assoc, ← Nat.pow_add]
      congr 2
      omega

end BinaryFormat

/-! ## Widening and narrowing -/

namespace Binary

open BinaryFormat in
/-- A finite 32-bit magnitude is a finite one on 64 bits. -/
theorem exists_units_double {k : Nat} (hk : k < single.infinity) :
    ∃ n, n < double.infinity ∧
      double.units n = single.units k * 2 ^ (double.fraction - single.fraction) := by
  obtain ⟨s, m, hparts, rfl⟩ := single.exists_parts k
  have hm : m < 2 * double.unit := Nat.lt_of_lt_of_le hparts.lt (by decide)
  have hs : s < 256 := by
    have hunit : single.unit = 0x800000 := by decide
    have hinfinity : single.infinity = 0x7F800000 := rfl
    rw [hunit, hinfinity] at hk
    omega
  have hscale : double.precision - 1 ≤ s + (double.fraction - single.fraction) :=
    Nat.le_trans (by decide) (Nat.le_add_left ..)
  obtain ⟨n, hn, hunits⟩ := exists_units_eq hm hscale
  refine ⟨n, Nat.lt_of_lt_of_le hn ?_, ?_⟩
  · have hunit : double.unit = 0x10000000000000 := by decide
    have hinfinity : double.infinity = 0x7FF0000000000000 := rfl
    have hfraction : double.fraction - single.fraction = 925 := rfl
    rw [hunit, hinfinity, hfraction]
    omega
  · rw [hunits, hparts.units_eq, Nat.mul_assoc, Nat.pow_add]

open BinaryFormat in
/-- A 32-bit number is the same after it was put on 64 bits and rounded back. -/
theorem narrow_widen (x : Binary32) : x.widen.narrow = x := by
  cases x with
  | nan => rfl
  | signed neg k hk =>
    by_cases hinfinity : k = single.infinity
    · subst hinfinity
      simp only [widen, convert, if_true, infinite, narrow]
    · obtain ⟨n, hn, hunits⟩ := exists_units_double (Nat.lt_of_le_of_ne hk hinfinity)
      have hwide : double.roundUnits (single.units k <<< double.fraction) (1 <<< single.fraction) =
          n := by
        have hexact : single.units k <<< double.fraction =
            double.units n * 1 <<< single.fraction := by
          rw [hunits, Nat.shiftLeft_eq, Nat.one_shiftLeft, Nat.mul_assoc, ← Nat.pow_add,
            Nat.sub_add_cancel (by decide)]
        rw [hexact]
        exact roundUnits_units (by decide) (Nat.le_of_lt hn) (by decide)
      have hnarrow : single.roundUnits (double.units n <<< single.fraction)
          (1 <<< double.fraction) = k := by
        have hexact : double.units n <<< single.fraction =
            single.units k * 1 <<< double.fraction := by
          rw [hunits, Nat.shiftLeft_eq, Nat.one_shiftLeft, Nat.mul_assoc, ← Nat.pow_add,
            Nat.sub_add_cancel (by decide)]
        rw [hexact]
        exact roundUnits_units (by decide) hk (by decide)
      simp only [widen, convert, if_neg hinfinity, hwide, narrow, if_neg (Nat.ne_of_lt hn),
        hnarrow]

end Binary

/-! ## Bit patterns -/

/-- The sign bit stands above the magnitude, so that both can be read off a bit pattern. -/
theorem Binary.ofMagnitude_signBit {f : BinaryFormat} {top : Nat} (htop : f.infinity < top)
    {neg : Bool} {k : Nat} (hk : k ≤ f.infinity) :
    (ofMagnitude (decide (k + (if neg then top else 0) ≥ top))
      ((k + if neg then top else 0) % top) : Binary f) = .signed neg k hk := by
  have hlt : k < top := Nat.lt_of_le_of_lt hk htop
  have hsign : decide (k + (if neg then top else 0) ≥ top) = neg := by
    cases neg with
    | false => simpa using hlt
    | true => simp
  have hrest : (k + if neg then top else 0) % top = k := by
    cases neg with
    | false => simpa using Nat.mod_eq_of_lt hlt
    | true => simpa using Nat.mod_eq_of_lt hlt
  rw [hsign, hrest]
  exact dif_pos hk

namespace Binary32

theorem toNat_toBits_signed {neg : Bool} {k : Nat} (hk : k ≤ BinaryFormat.single.infinity) :
    (toBits (.signed neg k hk)).toNat = k + if neg then 0x80000000 else 0 := by
  have hinfinity : BinaryFormat.single.infinity = 0x7F800000 := rfl
  rw [toBits, UInt32.toNat_ofNat', Nat.mod_eq_of_lt]
  split <;> omega

theorem ofBits_toBits (x : Binary32) : ofBits x.toBits = x := by
  cases x with
  | nan => rfl
  | signed neg k hk =>
    rw [ofBits, toNat_toBits_signed]
    exact Binary.ofMagnitude_signBit (by decide) hk

end Binary32

namespace Binary64

theorem toNat_toBits_signed {neg : Bool} {k : Nat} (hk : k ≤ BinaryFormat.double.infinity) :
    (toBits (.signed neg k hk)).toNat = k + if neg then 0x8000000000000000 else 0 := by
  have hinfinity : BinaryFormat.double.infinity = 0x7FF0000000000000 := rfl
  rw [toBits, UInt64.toNat_ofNat', Nat.mod_eq_of_lt]
  split <;> omega

theorem ofBits_toBits (x : Binary64) : ofBits x.toBits = x := by
  cases x with
  | nan => rfl
  | signed neg k hk =>
    rw [ofBits, toNat_toBits_signed]
    exact Binary.ofMagnitude_signBit (by decide) hk

end Binary64

end RelMap
